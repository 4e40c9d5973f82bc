import HostErrorMonitor.Source.HostState
import HostErrorMonitor.Source.GpioPollMonitor

/-!
The host state and a polling monitor together, as the process runs them. The
monitor stands for each one that `startMonitors` would construct: it is built
and starts to poll when the monitors are started, reads the recorded host state,
and its `hostOn` is called by `sendHostOn`. Both sides are the source's machines;
the inputs by which the host reaches the monitor come from the host's steps only.
-/
namespace HostErrorMonitor.Spec
open HostErrorMonitor.Source HostErrorMonitor.Source.BaseGPIOPollMonitor Reactive

structure Hosted where
  host : HostState := {}
  monitor : Option BaseGPIOPollMonitor := none
  deriving DecidableEq, Repr

inductive HostedInput where
  | deliver (i : HostInput) (env : Interference)
  | monitor (i : PollInput)
  deriving DecidableEq, Repr

inductive HostedEffect where
  | host (effect : HostEffect)
  | poll (event : PollEvent)
  deriving DecidableEq, Repr

/-- The inputs of the monitor that are the host's to give. -/
def fromHost : PollInput → Bool
  | .hostState _ => true
  | .hostOn _ => true
  | .hostTurnsOn _ => true
  | _ => false

/-- `hostOff` is written first; `startMonitors` then constructs the monitor. -/
def recordHostState (cfg : PollConfig) (m : ValidMonitor) (host : HostState) (out : List HostEffect)
    (monitor : Option BaseGPIOPollMonitor) : Option BaseGPIOPollMonitor × List PollEvent :=
  if .startMonitors ∈ out then
    let (s, events) := { m with hostOff := hostIsOff host }.initial cfg
    (some s, events)
  else (monitor.map fun s => { s with hostOff := hostIsOff host }, [])

def sendHostOn (cfg : PollConfig) (env : Interference) (out : List HostEffect)
    (monitor : Option BaseGPIOPollMonitor) : Option BaseGPIOPollMonitor × List PollEvent :=
  if .sendHostOn ∈ out then
    match monitor with
    | none => (none, [])
    | some s =>
      let (s, events) := hostOn cfg env s
      (some s, events)
  else (monitor, [])

def hostedMonitor (cfg : PollConfig) (m : ValidMonitor) :
    Machine Hosted HostedInput HostedEffect where
  step s
    | .deliver i env =>
      match hostMachine.step s.host i with
      | none => none
      | some (host, out) =>
        let (monitor, started) := recordHostState cfg m host out s.monitor
        let (monitor, notified) := sendHostOn cfg env out monitor
        some (⟨host, monitor⟩, out.map .host ++ (started ++ notified).map .poll)
    | .monitor i =>
      if fromHost i then none
      else
        match s.monitor with
        | none => none
        | some monitor =>
          match (pollMachine cfg).step monitor i with
          | none => none
          | some (monitor, events) =>
            some ({ s with monitor := some monitor }, events.map .poll)

theorem recordHostState_started (cfg : PollConfig) (m : ValidMonitor) (host : HostState)
    {out : List HostEffect} (monitor : Option BaseGPIOPollMonitor) (once : .startMonitors ∉ out) :
    recordHostState cfg m host out monitor =
      (monitor.map fun s => { s with hostOff := hostIsOff host }, []) := by
  simp [recordHostState, once]

theorem recordHostState_starts (cfg : PollConfig) (m : ValidMonitor) (host : HostState)
    {out : List HostEffect} (monitor : Option BaseGPIOPollMonitor) (starts : .startMonitors ∈ out) :
    recordHostState cfg m host out monitor =
      (some ({ m with hostOff := hostIsOff host }.initial cfg).1,
        ({ m with hostOff := hostIsOff host }.initial cfg).2) := by
  simp [recordHostState, starts]

theorem sendHostOn_notifies (cfg : PollConfig) (env : Interference) {out : List HostEffect}
    (s : BaseGPIOPollMonitor) (sent : .sendHostOn ∈ out) :
    sendHostOn cfg env out (some s) = (some (hostOn cfg env s).1, (hostOn cfg env s).2) := by
  simp [sendHostOn, sent]

theorem sendHostOn_quiet (cfg : PollConfig) (env : Interference) {out : List HostEffect}
    (monitor : Option BaseGPIOPollMonitor) (silent : .sendHostOn ∉ out) :
    sendHostOn cfg env out monitor = (monitor, []) := by
  simp [sendHostOn, silent]

/-- The delivery that an input makes to the host state. -/
def delivered : HostedInput → List HostInput
  | .deliver i _ => [i]
  | .monitor _ => []

/-- What one step of the two can do, guards included. -/
theorem hosted_step_cases {cfg : PollConfig} {m : ValidMonitor} {s s' : Hosted} {i : HostedInput}
    {out : List HostedEffect} (step : (hostedMonitor cfg m).step s i = some (s', out)) :
    (∃ j env host effects, i = .deliver j env ∧ hostMachine.step s.host j = some (host, effects) ∧
      s' = ⟨host, (sendHostOn cfg env effects
        (recordHostState cfg m host effects s.monitor).1).1⟩ ∧
      out = effects.map .host ++ ((recordHostState cfg m host effects s.monitor).2 ++
        (sendHostOn cfg env effects
          (recordHostState cfg m host effects s.monitor).1).2).map .poll) ∨
    (∃ j monitor monitor' events, i = .monitor j ∧ fromHost j = false ∧
      s.monitor = some monitor ∧ (pollMachine cfg).step monitor j = some (monitor', events) ∧
      s' = { s with monitor := some monitor' } ∧ out = events.map .poll) := by
  cases i with
  | deliver j env =>
    simp only [hostedMonitor] at step
    split at step
    · cases step
    next host effects handled =>
      cases step
      exact Or.inl ⟨j, env, host, effects, rfl, handled, rfl, rfl⟩
  | monitor j =>
    simp only [hostedMonitor] at step
    split at step
    · cases step
    next own =>
      split at step
      · cases step
      next monitor present =>
        split at step
        · cases step
        next monitor' events handled =>
          cases step
          exact Or.inr ⟨j, monitor, monitor', events, rfl, by simpa using own, present, handled,
            rfl, rfl⟩

/-- The host state runs as if it were alone, on the deliveries of the run. -/
theorem host_run_of_hosted {cfg : PollConfig} {m : ValidMonitor} {is : List HostedInput}
    {c : Hosted × List HostedEffect} (run : (hostedMonitor cfg m).exec ({}, []) is = some c) :
    ∃ tr, hostMachine.exec ({}, []) (is.flatMap delivered) = some (c.1.host, tr) := by
  have answers : ∀ (c : Hosted × List HostedEffect) i c' (d : HostState × List HostEffect),
      c.1.host = d.1 → (hostedMonitor cfg m).next c i = some c' →
      ∃ d', hostMachine.exec d (delivered i) = some d' ∧ c'.1.host = d'.1 := by
    intro c i c' d same next
    obtain ⟨s, out, step, rfl⟩ := (hostedMonitor cfg m).next_some.mp next
    rcases hosted_step_cases step with ⟨j, env, host, effects, rfl, handled, rfl, _⟩ |
      ⟨j, monitor, monitor', events, rfl, _, _, _, rfl, _⟩
    · rw [same] at handled
      refine ⟨(host, d.2 ++ effects), ?_, rfl⟩
      exact hostMachine.exec_cons.mpr
        ⟨_, hostMachine.next_some.mpr ⟨host, effects, handled, rfl⟩, rfl⟩
    · exact ⟨d, rfl, same⟩
  obtain ⟨⟨host, tr⟩, alone, same⟩ := (hostedMonitor cfg m).exec_project hostMachine
    (fun c d => c.1.host = d.1) delivered answers (d := ({}, [])) rfl run
  exact ⟨tr, by rw [alone, same]⟩

/-- The monitor exists once the monitors are started, and reads the host state
that is recorded. -/
structure Mirrored (c : Hosted × List HostedEffect) : Prop where
  started : c.1.host.initialized = c.1.monitor.isSome
  hostOff : ∀ s, c.1.monitor = some s → s.hostOff = hostIsOff c.1.host

theorem poll_hostOff (cfg : PollConfig) (env : Interference) (s : BaseGPIOPollMonitor) :
    (poll cfg env s).1.hostOff = s.hostOff := by
  rcases poll_cases cfg env s with ⟨_, result⟩ | ⟨_, _, result⟩ | ⟨_, _, result⟩
  · simp [result, waitForEvent]
  · simp [result, waitForEvent]
  · simp [result, armTimer, elapse]

/-- The monitor's own steps do not touch the host state it reads. -/
theorem own_step_hostOff {cfg : PollConfig} {s s' : BaseGPIOPollMonitor} {i : PollInput}
    {out : List PollEvent} (own : fromHost i = false)
    (step : (pollMachine cfg).step s i = some (s', out)) : s'.hostOff = s.hostOff := by
  rcases poll_step_cases step with ⟨_, rfl, _⟩ | ⟨_, _, rfl, _⟩ | ⟨_, _, rfl, _⟩ |
    ⟨_, rfl, _⟩ | ⟨_, _, _, _, rfl⟩ | ⟨_, _, _, _, _, rfl⟩ |
    ⟨_, _, ⟨rfl, _⟩ | ⟨rfl, _⟩, _⟩ | ⟨env, _, _, run⟩ | ⟨env, _, _, run⟩
  · rfl
  · rfl
  · rfl
  · cases own
  · rfl
  · rfl
  · cases own
  · cases own
  · have kept := poll_hostOff cfg env (restarted cfg { s with eventReady := s.eventReady - 1 })
    rw [startPolling_eq] at run
    cases run
    exact kept
  · have kept := poll_hostOff cfg env { s with timerReady := s.timerReady - 1 }
    rw [run] at kept
    exact kept

theorem initial_hostOff (cfg : PollConfig) (m : ValidMonitor) :
    (m.initial cfg).1.hostOff = m.hostOff := by
  rw [ValidMonitor.initial_eq, startPolling_eq]
  exact poll_hostOff cfg m.env _

/-- After the host state is recorded, a monitor that exists reads it. -/
theorem recordHostState_hostOff {cfg : PollConfig} {m : ValidMonitor} {host : HostState}
    {out : List HostEffect} {monitor : Option BaseGPIOPollMonitor} {s : BaseGPIOPollMonitor}
    (result : (recordHostState cfg m host out monitor).1 = some s) : s.hostOff = hostIsOff host := by
  by_cases starts : .startMonitors ∈ out
  · rw [recordHostState_starts cfg m host monitor starts] at result
    rw [← Option.some.inj result]
    exact initial_hostOff cfg { m with hostOff := hostIsOff host }
  · rw [recordHostState_started cfg m host monitor starts] at result
    obtain ⟨s₀, _, rfl⟩ := Option.map_eq_some_iff.mp result
    rfl

theorem recordHostState_isSome (cfg : PollConfig) (m : ValidMonitor) (host : HostState)
    (out : List HostEffect) (monitor : Option BaseGPIOPollMonitor) :
    (recordHostState cfg m host out monitor).1.isSome =
      (decide (.startMonitors ∈ out) || monitor.isSome) := by
  by_cases starts : .startMonitors ∈ out
  · simp [recordHostState_starts cfg m host monitor starts, starts]
  · simp [recordHostState_started cfg m host monitor starts, starts]

theorem sendHostOn_hostOff {cfg : PollConfig} {env : Interference} {out : List HostEffect}
    {monitor : Option BaseGPIOPollMonitor} {s : BaseGPIOPollMonitor}
    (result : (sendHostOn cfg env out monitor).1 = some s) :
    ∃ s₀, monitor = some s₀ ∧ s.hostOff = s₀.hostOff := by
  by_cases sent : .sendHostOn ∈ out
  · cases monitor with
    | none => simp [sendHostOn, sent] at result
    | some s₀ =>
      rw [sendHostOn_notifies cfg env s₀ sent] at result
      refine ⟨s₀, rfl, ?_⟩
      rw [← Option.some.inj result, hostOn_eq]
      exact poll_hostOff cfg env (restarted cfg { s₀ with eventWaits := 0 })
  · rw [sendHostOn_quiet cfg env monitor sent] at result
    exact ⟨s, result, rfl⟩

theorem sendHostOn_isSome (cfg : PollConfig) (env : Interference) (out : List HostEffect)
    (monitor : Option BaseGPIOPollMonitor) :
    (sendHostOn cfg env out monitor).1.isSome = monitor.isSome := by
  by_cases sent : .sendHostOn ∈ out
  · cases monitor with
    | none => simp [sendHostOn]
    | some s => rw [sendHostOn_notifies cfg env s sent]; rfl
  · rw [sendHostOn_quiet cfg env monitor sent]

theorem mirrored_step {cfg : PollConfig} {m : ValidMonitor} {c c' : Hosted × List HostedEffect}
    {i : HostedInput} (mirrored : Mirrored c) (next : (hostedMonitor cfg m).next c i = some c') :
    Mirrored c' := by
  obtain ⟨s, out, step, rfl⟩ := (hostedMonitor cfg m).next_some.mp next
  rcases hosted_step_cases step with ⟨j, env, host, effects, rfl, handled, rfl, _⟩ |
    ⟨j, monitor, monitor', events, rfl, own, present, handled, rfl, _⟩
  · refine ⟨?_, fun s result => ?_⟩
    · simp only
      rw [sendHostOn_isSome, recordHostState_isSome, ← mirrored.started]
      rcases host_step_cases handled with ⟨_, _, _, _, rfl, rfl⟩ | ⟨_, _, _, _, rfl, rfl⟩ |
        ⟨_, _, rfl, rfl⟩
      · simp
      · cases c.1.host.initialized <;> simp
      · cases c.1.host.initialized <;> simp
    · obtain ⟨s₀, recorded, same⟩ := sendHostOn_hostOff result
      exact same.trans (recordHostState_hostOff recorded)
  · refine ⟨?_, fun s result => ?_⟩
    · simpa [present] using mirrored.started
    · cases result
      exact (own_step_hostOff own handled).trans (mirrored.hostOff monitor present)

theorem mirrored_of_run {cfg : PollConfig} {m : ValidMonitor} {is : List HostedInput}
    {c : Hosted × List HostedEffect} (run : (hostedMonitor cfg m).exec ({}, []) is = some c) :
    Mirrored c := by
  have first : Mirrored ({}, []) := ⟨rfl, fun s none => by cases none⟩
  exact (hostedMonitor cfg m).invariant (fun _ _ _ mirrored _ next => mirrored_step mirrored next)
    first ((hostedMonitor cfg m).along_true _ is) run

/-- A delivery is always handled. -/
theorem deliver_total (cfg : PollConfig) (m : ValidMonitor) (s : Hosted) (j : HostInput)
    (env : Interference) : ∃ s' out, (hostedMonitor cfg m).step s (.deliver j env) = some (s', out) := by
  obtain ⟨host, effects, handled⟩ := host_step_total s.host j
  simp only [hostedMonitor, handled]
  exact ⟨_, _, rfl⟩

end HostErrorMonitor.Spec
