import HostErrorMonitor.Guarantees.TimeoutWrites

/-!
# The timeout in force and the deadlines computed from it

The setter of IERRTimeoutMs is the only guard: the field it writes belongs to the
polling monitor, which narrows it to a duration of `int` milliseconds and checks
nothing. The bound therefore has to hold of the field in every state, so that no
`startPolling` narrows anything away, whatever words the writes bring.
-/
namespace HostErrorMonitor.Guarantees
open HostErrorMonitor.Source HostErrorMonitor.Source.DerivedMonitor Reactive
open HostErrorMonitor.Source.IERRMonitor

variable {lib : Libpeci} {cfg : PollConfig}

def isAccepted : DerivedEvent IERREffect → Bool
  | .own (.ierrTimeoutMs _ accepted) => accepted
  | _ => false

/-- The value of the last write that was accepted, or the default. -/
def lastAccepted (tr : List (DerivedEvent IERREffect)) : Nat :=
  match latest isAccepted tr with
  | some (.own (.ierrTimeoutMs requested _)) => requested
  | _ => ierrTimeoutMsDefault

/-- The field holds the last accepted value, which is what the property publishes. -/
structure TimeoutInForce (c : DerivedMonitor IERRMonitor × List (DerivedEvent IERREffect)) : Prop where
  value : c.1.base.timeoutMs = lastAccepted c.2
  bounded : c.1.base.timeoutMs ≤ ierrTimeoutMsMax
  published : c.1.own.ierrTimeoutMs = c.1.base.timeoutMs

/-- Each `startPolling` among the events that lead from `before` to `base` takes the
timeout in force over into its deadline as it is. -/
def DeadlineExact (cfg : PollConfig) (before out : List (DerivedEvent IERREffect))
    (base : BaseGPIOPollMonitor) : Prop :=
  ∀ now timeoutMs, .base (.startPolling now timeoutMs) ∈ out →
    timeoutMs = lastAccepted before ∧ intMilliseconds cfg timeoutMs = timeoutMs ∧
      base.timeoutTime = now + nanoseconds timeoutMs ∧ now ≤ base.timeoutTime

/-- A write is accepted up to the limit; one that is not changes nothing. -/
def WriteChecked (m m' : DerivedMonitor IERRMonitor) (out : List (DerivedEvent IERREffect)) : Prop :=
  ∀ requested accepted, .own (.ierrTimeoutMs requested accepted) ∈ out →
    (accepted = true ↔ requested ≤ ierrTimeoutMsMax) ∧
      (accepted = false → m'.base.timeoutMs = m.base.timeoutMs ∧
        m'.own.ierrTimeoutMs = m.own.ierrTimeoutMs ∧ m'.base.timeoutTime = m.base.timeoutTime)

/-- The arithmetic of one step. -/
def StepsExactly (lib : Libpeci) (cfg : PollConfig)
    (c : DerivedMonitor IERRMonitor × List (DerivedEvent IERREffect)) (i : IERRInput) : Prop :=
  ∀ m' out, (ierrMachine lib cfg).step c.1 i = some (m', out) →
    DeadlineExact cfg c.2 out m'.base ∧ WriteChecked c.1 m' out

theorem lastAccepted_append (tr out : List (DerivedEvent IERREffect))
    (unaccepted : ∀ x ∈ out, isAccepted x = false) : lastAccepted (tr ++ out) = lastAccepted tr := by
  unfold lastAccepted
  rw [latest_append_unmarked isAccepted tr out unaccepted]

/-- An event that is neither a `startPolling` nor a write of the property. -/
def Untimed (x : DerivedEvent IERREffect) : Prop :=
  (∀ now timeoutMs, x ≠ .base (.startPolling now timeoutMs)) ∧
    ∀ requested accepted, x ≠ .own (.ierrTimeoutMs requested accepted)

theorem untimed_base {event : PollEvent}
    (unstarted : ∀ now timeoutMs, event ≠ .startPolling now timeoutMs) : Untimed (.base event) := by
  refine ⟨fun now timeoutMs same => ?_, nofun⟩
  cases same
  exact unstarted now timeoutMs rfl

theorem untimed_call (level : Bool) : Untimed (.startPolling level) := by
  constructor
  · intro now timeoutMs same
    cases same
  · intro requested accepted same
    cases same

theorem unaccepted_of_untimed {x : DerivedEvent IERREffect} (untimed : Untimed x) :
    isAccepted x = false := by
  cases x with
  | startPolling level => rfl
  | base event => rfl
  | own effect =>
    cases effect with
    | ierrTimeoutMs requested accepted => exact absurd rfl (untimed.2 requested accepted)
    | _ => rfl

/-- The effects of a report are no writes of the property. -/
theorem handler_untimed (peci : Peci) (m : IERRMonitor) :
    ∀ effect ∈ (assertHandler lib peci m).2, Untimed (.own effect) := by
  intro effect member
  simp only [assertHandler, List.mem_cons, List.not_mem_nil, or_false] at member
  rcases member with rfl | rfl | rfl <;> exact ⟨nofun, nofun⟩

/-- A poll starts nothing and writes no timeout. -/
theorem poll_untimed (lib : Libpeci) (cfg : PollConfig) (w : Surroundings)
    (m : DerivedMonitor IERRMonitor) :
    (∀ x ∈ (poll (overrides lib) cfg w m).2, Untimed x) ∧
      (poll (overrides lib) cfg w m).1.own.ierrTimeoutMs = m.own.ierrTimeoutMs := by
  constructor
  · intro x member
    rcases mem_poll member with ⟨event, rfl, unstarted⟩ | ⟨effect, rfl, asserting | deasserting⟩
    · exact untimed_base unstarted
    · exact handler_untimed w.peci m.own effect asserting
    · cases deasserting
  · rcases DerivedMonitor.poll_cases (overrides lib) cfg w m with ⟨_, result⟩ | ⟨_, _, result⟩ |
      ⟨_, _, result⟩
    · rw [result]
      rfl
    · rw [result]
      rfl
    · rw [result]

/-- A `startPolling` starts once, with the timeout of the field. -/
theorem starting_timed {w : Surroundings} {m : DerivedMonitor IERRMonitor}
    {x : DerivedEvent IERREffect} (member : x ∈ starting (overrides lib) w m) :
    Untimed x ∨ x = .base (.startPolling (meanwhile w m.base).clock m.base.timeoutMs) := by
  rcases mem_starting member with rfl | ⟨effect, own, _⟩ | rfl | start
  · exact Or.inl (untimed_call _)
  · cases own
  · exact Or.inl (untimed_base nofun)
  · exact Or.inr start

/-- A `startPolling` of a monitor whose field is bounded sets the exact deadline. -/
theorem starts_exactly (w : Surroundings) {m : DerivedMonitor IERRMonitor}
    {before : List (DerivedEvent IERREffect)} (value : m.base.timeoutMs = lastAccepted before)
    (bounded : m.base.timeoutMs ≤ ierrTimeoutMsMax) :
    DeadlineExact cfg before (startPolling (overrides lib) cfg w m).2
      (startPolling (overrides lib) cfg w m).1.base := by
  have exactly := intMilliseconds_of_bounded cfg m.base.timeoutMs bounded
  have untimed := (poll_untimed lib cfg w (restarted (overrides lib) cfg w m)).1
  have deadline := (poll_timeout (overrides lib) cfg w (restarted (overrides lib) cfg w m)).2
  have set : (restarted (overrides lib) cfg w m).base.timeoutTime =
      (meanwhile w m.base).clock + nanoseconds m.base.timeoutMs := by
    show _ + nanoseconds (intMilliseconds cfg m.base.timeoutMs) = _
    rw [exactly]
  rw [startPolling_eq]
  intro now timeoutMs member
  rcases List.mem_append.mp member with started | polled
  · rcases starting_timed started with other | this
    · exact absurd rfl (other.1 now timeoutMs)
    · cases this
      refine ⟨value, exactly, deadline.trans set, ?_⟩
      rw [deadline, set]
      unfold nanoseconds
      omega
  · exact absurd rfl ((untimed _ polled).1 now timeoutMs)

/-- A `startPolling` writes no timeout. -/
theorem starts_unwritten (lib : Libpeci) (cfg : PollConfig) (w : Surroundings)
    (m : DerivedMonitor IERRMonitor) :
    (∀ x ∈ (startPolling (overrides lib) cfg w m).2, isAccepted x = false ∧
        ∀ requested accepted, x ≠ .own (.ierrTimeoutMs requested accepted)) ∧
      (startPolling (overrides lib) cfg w m).1.base.timeoutMs = m.base.timeoutMs ∧
      (startPolling (overrides lib) cfg w m).1.own.ierrTimeoutMs = m.own.ierrTimeoutMs := by
  obtain ⟨untimed, published⟩ := poll_untimed lib cfg w (restarted (overrides lib) cfg w m)
  have timeoutMs := (poll_timeout (overrides lib) cfg w (restarted (overrides lib) cfg w m)).1
  rw [startPolling_eq]
  refine ⟨fun x member => ?_, timeoutMs, published⟩
  rcases List.mem_append.mp member with started | polled
  · rcases starting_timed started with other | rfl
    · exact ⟨unaccepted_of_untimed other, other.2⟩
    · exact ⟨rfl, nofun⟩
  · exact ⟨unaccepted_of_untimed (untimed x polled), (untimed x polled).2⟩

/-- A step that accepts no write leaves the field and what is published. -/
theorem inForce_quiet {m m' : DerivedMonitor IERRMonitor} {tr out : List (DerivedEvent IERREffect)}
    (inForce : TimeoutInForce (m, tr)) (unaccepted : ∀ x ∈ out, isAccepted x = false)
    (timeoutMs : m'.base.timeoutMs = m.base.timeoutMs)
    (published : m'.own.ierrTimeoutMs = m.own.ierrTimeoutMs) : TimeoutInForce (m', tr ++ out) := by
  obtain ⟨value, bounded, same⟩ := inForce
  refine ⟨?_, ?_, ?_⟩
  · rw [lastAccepted_append tr out unaccepted, timeoutMs]
    exact value
  · rw [timeoutMs]
    exact bounded
  · rw [published, timeoutMs]
    exact same

/-- What a step without a write or a `startPolling` is checked for. -/
theorem exact_of_untimed {before out : List (DerivedEvent IERREffect)}
    {m m' : DerivedMonitor IERRMonitor} (untimed : ∀ x ∈ out, Untimed x) :
    DeadlineExact cfg before out m'.base ∧ WriteChecked m m' out :=
  ⟨fun now timeoutMs member => absurd rfl ((untimed _ member).1 now timeoutMs),
    fun requested accepted member => absurd rfl ((untimed _ member).2 requested accepted)⟩

/-- Every step keeps the field, and its own arithmetic is exact. -/
theorem inForce_step {m m' : DerivedMonitor IERRMonitor} {tr out : List (DerivedEvent IERREffect)}
    {i : IERRInput} (inForce : TimeoutInForce (m, tr))
    (step : (ierrMachine lib cfg).step m i = some (m', out)) :
    TimeoutInForce (m', tr ++ out) ∧ DeadlineExact cfg tr out m'.base ∧ WriteChecked m m' out := by
  rcases ierr_step_cases step with ⟨i, rfl, own, step⟩ | ⟨requested, rfl, within, rfl, rfl⟩ |
    ⟨requested, rfl, above, rfl, rfl⟩
  · rcases derived_step_cases step with ⟨j, base, events, rfl, inherited, answered, rfl, rfl⟩ |
      ⟨w, m₁, announced, started, hostOn, _, rfl, rfl⟩ | ⟨w, rfl, _, run⟩
    · obtain ⟨trace, _, timeout, _⟩ := inherited_step inherited answered
      have kept : base.timeoutMs = m.base.timeoutMs := by
        rcases timeout with kept | rfl
        · exact kept
        · cases own
      have untimed : ∀ x ∈ events.map (DerivedEvent.base (ε := IERREffect)), Untimed x := by
        intro x member
        obtain ⟨event, among, rfl⟩ := List.mem_map.mp member
        apply untimed_base
        rcases trace with rfl | rfl
        · cases among
        · rw [List.mem_singleton.mp among]
          nofun
      exact ⟨inForce_quiet inForce (fun x member => unaccepted_of_untimed (untimed x member)) kept rfl,
        exact_of_untimed untimed⟩
    · have same : m₁.base.timeoutMs = m.base.timeoutMs ∧ m₁.own = m.own := by
        cases i <;> cases started <;> exact ⟨rfl, rfl⟩
      have field : m₁.base.timeoutMs = lastAccepted tr := same.1.trans inForce.value
      have bounded : m₁.base.timeoutMs ≤ ierrTimeoutMsMax := by
        rw [same.1]
        exact inForce.bounded
      obtain ⟨unwritten, timeoutMs, published⟩ := starts_unwritten lib cfg w m₁
      have quiet : ∀ x ∈ announced ++ (startPolling (overrides lib) cfg w m₁).2,
          isAccepted x = false ∧ ∀ requested accepted, x ≠ .own (.ierrTimeoutMs requested accepted) := by
        intro x member
        rcases List.mem_append.mp member with announcement | later
        · rw [hostOn x announcement]
          exact ⟨rfl, nofun⟩
        · exact unwritten x later
      refine ⟨?_, ?_, ?_⟩
      · apply inForce_quiet inForce (fun x member => (quiet x member).1) (timeoutMs.trans same.1)
        rw [published, same.2]
      · intro now timeoutMs member
        rcases List.mem_append.mp member with announcement | later
        · cases hostOn _ announcement
        · exact starts_exactly w field bounded now timeoutMs later
      · intro requested accepted member
        exact absurd rfl ((quiet _ member).2 requested accepted)
    · obtain ⟨untimed, published⟩ := poll_untimed lib cfg w
        { m with base := { m.base with timerReady := m.base.timerReady - 1 } }
      have timeoutMs := (poll_timeout (overrides lib) cfg w
        { m with base := { m.base with timerReady := m.base.timerReady - 1 } }).1
      rw [run] at untimed timeoutMs published
      exact ⟨inForce_quiet inForce (fun x member => unaccepted_of_untimed (untimed x member)) timeoutMs
        published, exact_of_untimed untimed⟩
  · refine ⟨⟨?_, within, rfl⟩, fun now timeoutMs member => ?_, fun other accepted member => ?_⟩
    · unfold lastAccepted
      rw [latest_append_marked isAccepted tr [] _ rfl (by simp)]
    · cases List.mem_singleton.mp member
    · cases List.mem_singleton.mp member
      exact ⟨⟨fun _ => within, fun _ => rfl⟩, nofun⟩
  · refine ⟨?_, fun now timeoutMs member => ?_, fun other accepted member => ?_⟩
    · exact inForce_quiet inForce (by simp [isAccepted]) rfl rfl
    · cases List.mem_singleton.mp member
    · cases List.mem_singleton.mp member
      exact ⟨⟨nofun, fun within => absurd within (Nat.not_le.mpr above)⟩, fun _ => ⟨rfl, rfl, rfl⟩⟩

/-- The constructor's own `startPolling` takes the default over. -/
theorem inForce_initial (l : ValidPollLine) (signalName customName : String) :
    TimeoutInForce (IERRMonitor.initial lib cfg l signalName customName) ∧
      DeadlineExact cfg [] (IERRMonitor.initial lib cfg l signalName customName).2
        (IERRMonitor.initial lib cfg l signalName customName).1.base := by
  have limit : ierrTimeoutMsDefault ≤ ierrTimeoutMsMax := by decide
  unfold IERRMonitor.initial
  rw [ValidPollLine.initial_eq]
  refine ⟨?_, starts_exactly l.start rfl limit⟩
  obtain ⟨unwritten, timeoutMs, published⟩ := starts_unwritten lib cfg l.start
    ⟨BaseGPIOPollMonitor.construct l.setup ierrTimeoutMsDefault l.clock l.line l.unread l.hostOff,
      { assertIERR := addAssertInterface signalName customName
          "xyz.openbmc_project.HostErrorMonitor.Processor.IERR"
        associationIERR := noAssociations
        ierrTimeoutMs := ierrTimeoutMsDefault }⟩
  exact @inForce_quiet _ _ [] _ ⟨rfl, limit, rfl⟩ (fun x member => (unwritten x member).1)
    timeoutMs published

end HostErrorMonitor.Guarantees
