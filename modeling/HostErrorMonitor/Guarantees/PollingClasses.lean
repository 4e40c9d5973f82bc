import HostErrorMonitor.Guarantees.ProcessAssertion

/-!
# The classes that are polling monitors

The monitors of SMI, of an ERR pin that reports a timeout, of ERR2 and of IERR are
seen as polling monitors through their bases, so what holds of the polling monitors
of a process holds of each of them.
-/
namespace HostErrorMonitor.Guarantees
open HostErrorMonitor.Source HostErrorMonitor.Source.DerivedMonitor HostErrorMonitor.Spec Reactive

variable {σ ε : Type} {o : PollOverrides σ ε} {cfg : PollConfig}

theorem replicate_edge_quiet {off : Bool} (n : Nat) :
    ∀ x ∈ List.replicate n PollEvent.edge, isReport x = true → off = false := by
  intro x member report
  rw [List.eq_of_mem_replicate member] at report
  cases report

/-- A `startPolling` begins a window, whatever the override of it does. -/
theorem startPolling_begins (w : Surroundings) (m : DerivedMonitor σ) :
    BeginsWindow cfg m.base.hostOff (startPolling o cfg w m).1.base
      (baseEvents (startPolling o cfg w m).2) :=
  ⟨w.poll, meanwhile w m.base, List.replicate w.edges .edge, rfl, replicate_edge_quiet _, rfl,
    baseEvents_startPolling w m⟩

theorem hostOn_begins (w : Surroundings) (m : DerivedMonitor σ) :
    BeginsWindow cfg m.base.hostOff (hostOn o cfg w m).1.base (baseEvents (hostOn o cfg w m).2) := by
  have begins := @startPolling_begins σ ε o cfg w { m with base := { m.base with eventWaits := 0 } }
  have silent : ∀ x ∈ [PollEvent.hostOn], isReport x = true → m.base.hostOff = false := by
    intro x member report
    rw [List.mem_singleton.mp member] at report
    cases report
  exact window_append silent begins

theorem initial_begins (l : ValidPollLine) (timeoutMs : Nat) (own : σ) :
    BeginsWindow cfg l.hostOff (l.initial o cfg timeoutMs own).1.base
      (baseEvents (l.initial o cfg timeoutMs own).2) := by
  rw [ValidPollLine.initial_eq]
  exact startPolling_begins l.start ⟨BaseGPIOPollMonitor.construct l.setup timeoutMs l.clock l.line
    l.unread l.hostOff, own⟩

/-- A constructor that leaves its monitor valid begins a window. -/
theorem construct_begins {l : PollLine} {off : Bool} {timeoutMs : Nat} {own : σ}
    {initial : ValidPollLine → DerivedMonitor σ × List (DerivedEvent ε)}
    (begins : ∀ v : ValidPollLine,
      BeginsWindow cfg v.hostOff (initial v).1.base (baseEvents (initial v).2))
    (valid : (l.construct initial timeoutMs own off).1.base.valid = true) :
    BeginsWindow cfg off (l.construct initial timeoutMs own off).1.base
      (baseEvents (l.construct initial timeoutMs own off).2) := by
  unfold PollLine.construct at valid ⊢
  split
  next requested =>
    exact begins ⟨l.setup, requested, l.clock, l.line, l.unread, off, l.start⟩
  next invalid =>
    rw [dif_neg invalid] at valid
    exact absurd valid invalid

/-- A step of a derived monitor by itself is a run of the base by itself. -/
theorem derived_own {m m' : DerivedMonitor σ} {i : DerivedInput} {out : List (DerivedEvent ε)}
    (own : fromHost i.toBase = false) (step : (derivedMachine o cfg).step m i = some (m', out)) :
    ∃ is, (∀ j ∈ is, fromHost j = false) ∧
      (pollMachine cfg).exec (m.base, []) is = some (m'.base, baseEvents out) := by
  have apart : isHostOn i = false := by
    cases i with
    | hostOn w => cases own
    | hostTurnsOn w => cases own
    | _ => rfl
  obtain ⟨events, answered, same⟩ := derived_step_same apart step
  refine ⟨baseInputs i, fun j member => ?_, ?_⟩
  · rcases List.mem_append.mp member with before | called
    · cases i with
      | inherited j => cases before
      | timerHandler w => cases before
      | hostOn w => cases own
      | hostTurnsOn w => cases own
      | eventHandler w =>
        rcases List.mem_append.mp before with edge | tick
        · rw [List.eq_of_mem_replicate edge]
          rfl
        · rw [List.mem_singleton.mp tick]
          rfl
    · rw [List.mem_singleton.mp called]
      exact own
  · refine (pollMachine cfg).exec_concat.mpr ⟨_, exec_beforeCall i m.base [], ?_⟩
    exact (pollMachine cfg).next_some.mpr ⟨m'.base, events, answered, by rw [same]; rfl⟩

/-- A class whose constructor begins a window polls as its base does. -/
def pollingClassPolls (o : PollOverrides σ ε) (cfg : PollConfig)
    {construct : Bool → DerivedMonitor σ × List (DerivedEvent ε)}
    (begins : ∀ off, (construct off).1.base.valid = true →
      BeginsWindow cfg off (construct off).1.base (baseEvents (construct off).2)) :
    PollsAs (pollingClass o cfg construct) where
  cfg := cfg
  base m := m.base
  event := baseEvent
  constructed := begins
  hostState _ _ := rfl
  notified w m m' out step := by
    cases step
    exact hostOn_begins w m
  own m i m' out step := by
    simp only [pollingClass] at step
    split at step
    · cases step
    next own =>
      simp only [Bool.or_eq_true, not_or, Bool.not_eq_true] at own
      exact derived_own own.1 step

def smiPolls (intBits : Nat) (intBits_ge : 32 ≤ intBits) (l : PollLine) :
    PollsAs (smiClass intBits intBits_ge l) :=
  pollingClassPolls _ _ fun _ valid => construct_begins (fun v => initial_begins v _ _) valid

def errPinTimeoutPolls (lib : Libpeci) (errPin intBits : Nat) (intBits_ge : 32 ≤ intBits)
    (l : PollLine) : PollsAs (errPinTimeoutClass lib errPin intBits intBits_ge l) :=
  pollingClassPolls _ _ fun _ valid => construct_begins (fun v => initial_begins v _ _) valid

/-- What the inherited constructor does, as the monitor of ERR2 traces it. -/
theorem baseEvents_mapped {ε' : Type} (f : ε → ε') (tr : List (DerivedEvent ε)) :
    baseEvents (tr.map (DerivedEvent.map f)) = baseEvents tr := by
  have same : baseEvent ∘ DerivedEvent.map f = (baseEvent : DerivedEvent ε → Option PollEvent) := by
    funext event
    cases event <;> rfl
  unfold baseEvents
  rw [List.filterMap_map, same]

theorem err2_begins (lib : Libpeci) (cfg : PollConfig) (v : ValidPollLine) :
    BeginsWindow cfg v.hostOff (Err2Monitor.initial lib.maxCPUs lib cfg v).1.base
      (baseEvents (Err2Monitor.initial lib.maxCPUs lib cfg v).2) := by
  unfold Err2Monitor.initial
  rw [baseEvents_mapped]
  exact initial_begins v _ _

def err2Polls (lib : Libpeci) (intBits : Nat) (intBits_ge : 32 ≤ intBits) (l : PollLine) :
    PollsAs (err2Class lib intBits intBits_ge l) :=
  pollingClassPolls _ _ fun _ valid => construct_begins (err2_begins lib _) valid

/-- A step of the monitor of IERR by itself; a write of its property sets the timeout
of the base or does nothing to it. -/
theorem ierr_own {lib : Libpeci} {m m' : DerivedMonitor IERRMonitor} {i : IERRInput}
    {out : List (DerivedEvent IERREffect)} (own : ierrFromHost i = false)
    (step : (ierrMachine lib cfg).step m i = some (m', out)) :
    ∃ is, (∀ j ∈ is, fromHost j = false) ∧
      (pollMachine cfg).exec (m.base, []) is = some (m'.base, baseEvents out) := by
  rcases ierr_step_cases step with ⟨j, rfl, _, derived⟩ | ⟨requested, rfl, _, rfl, rfl⟩ |
    ⟨requested, rfl, _, rfl, rfl⟩
  · exact derived_own own derived
  · exact ⟨[.setTimeoutMs requested], by simp [fromHost], rfl⟩
  · exact ⟨[], by simp, rfl⟩

def ierrPolls (lib : Libpeci) (intBits : Nat) (intBits_ge : 32 ≤ intBits) (l : PollLine)
    (signalName customName : String) :
    PollsAs (ierrClass lib intBits intBits_ge l signalName customName) where
  cfg := IERRMonitor.config intBits intBits_ge
  base m := m.base
  event := baseEvent
  constructed _ valid := construct_begins (fun v => initial_begins v _ _) valid
  hostState _ _ := rfl
  notified w m m' out step := by
    cases step
    exact hostOn_begins w m
  own m i m' out step := by
    simp only [ierrClass] at step
    split at step
    · cases step
    next own => exact ierr_own (by simpa using own) step

/-- The polling monitors of the source, with what their constructors are given. -/
inductive PollingClass where
  | smi (intBits : Nat) (intBits_ge : 32 ≤ intBits) (l : PollLine)
  | errPinTimeout (lib : Libpeci) (errPin : Nat) (errPin_lt : errPin < 32) (intBits : Nat)
      (intBits_ge : 32 ≤ intBits) (l : PollLine)
  | err2 (lib : Libpeci) (intBits : Nat) (intBits_ge : 32 ≤ intBits) (l : PollLine)
  | ierr (lib : Libpeci) (intBits : Nat) (intBits_ge : 32 ≤ intBits) (l : PollLine)
      (signalName customName : String)

namespace PollingClass

def cls : PollingClass → MonitorClass
  | .smi intBits intBits_ge l => smiClass intBits intBits_ge l
  | .errPinTimeout lib errPin _ intBits intBits_ge l =>
    errPinTimeoutClass lib errPin intBits intBits_ge l
  | .err2 lib intBits intBits_ge l => err2Class lib intBits intBits_ge l
  | .ierr lib intBits intBits_ge l signalName customName =>
    ierrClass lib intBits intBits_ge l signalName customName

def polls : (p : PollingClass) → PollsAs p.cls
  | .smi intBits intBits_ge l => smiPolls intBits intBits_ge l
  | .errPinTimeout lib errPin _ intBits intBits_ge l =>
    errPinTimeoutPolls lib errPin intBits intBits_ge l
  | .err2 lib intBits intBits_ge l => err2Polls lib intBits intBits_ge l
  | .ierr lib intBits intBits_ge l signalName customName =>
    ierrPolls lib intBits intBits_ge l signalName customName

end PollingClass

section process
variable {κ : Type} [DecidableEq κ]

/-- A monitor of these classes reports nothing in a step that leaves the host recorded
as off, whichever monitors run beside it. -/
theorem pollingClass_silent_while_off (listing : Listing (Option κ)) (others : κ → MonitorClass)
    (p : PollingClass) (is : List (ProcessInput (listing.among p.cls others))) :
    (listing.among p.cls others).process.Along
      (fun c i => ∀ s' out, (listing.among p.cls others).process.step c.1 i = some (s', out) →
        hostIsOff s'.host = true → ∀ x ∈ p.polls.events (eventsOf none out), isReport x = false)
      ({}, []) is := by
  apply (listing.among p.cls others).process.along_of_steps
  intro pre i post c _ reach s' out step off x member
  have reads := @readsRecorded_of_run _ _ (listing.among p.cls others) none p.polls pre c reach
  exact silent_step reads step off member

/-- As long as no Get reply turns the host on once the monitors are started, the
asserted line of a monitor of these classes is watched while the host is on. -/
theorem pollingClass_assertion_watched (listing : Listing (Option κ)) (others : κ → MonitorClass)
    (p : PollingClass) (is : List (ProcessInput (listing.among p.cls others)))
    (bySignal : (listing.among p.cls others).process.Along (fun c i => TurnsOnBySignal c.1 i)
      ({}, []) is) :
    (listing.among p.cls others).process.Always (fun c => ∀ t : p.cls.State,
      c.1.monitors none = some t →
        AssertionWatched (p.polls.base t, p.polls.events (eventsOf none c.2))) ({}, []) is :=
  (listing.among p.cls others).process.always_of_invariant
    (I := @Polled _ _ (listing.among p.cls others) none p.polls)
    (fun _ _ _ before bySignal next => polled_next before bySignal next)
    (fun _ polled _ present => polled.watched present)
    (@polled_initial _ _ (listing.among p.cls others) none p.polls) bySignal

end process

end HostErrorMonitor.Guarantees
