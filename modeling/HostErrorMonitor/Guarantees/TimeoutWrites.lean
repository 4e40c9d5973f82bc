import HostErrorMonitor.Guarantees.DerivedPolling
import HostErrorMonitor.Guarantees.IerrLogging
import HostErrorMonitor.Guarantees.PollingTimeout
import HostErrorMonitor.Source.IerrOverrides

/-!
# IERR reports and the timeout in force when they are made

The deadline of a window is computed once, from the timeout at its start, and a
write of IERRTimeoutMs does not move it. A report therefore comes later than the
timeout then in force unless a write has raised that timeout within the window.
-/
namespace HostErrorMonitor.Guarantees
open HostErrorMonitor.Source HostErrorMonitor.Source.DerivedMonitor Reactive
open HostErrorMonitor.Source.IERRMonitor
open BaseGPIOPollMonitor (sees seen mem_seen)

variable {lib : Libpeci} {cfg : PollConfig}

def isTimed : DerivedEvent IERREffect → Bool
  | .base (.startPolling _ _) => true
  | _ => false

/-- The time of the latest `startPolling`, and the timeout in force at it. -/
def windowStart (tr : List (DerivedEvent IERREffect)) : Option (Int × Nat) :=
  match latest isTimed tr with
  | some (.base (.startPolling start timeoutMs)) => some (start, timeoutMs)
  | _ => none

/-- A report comes later than the timeout in force, which it states, after the
latest `startPolling`. -/
def Honoured (before : List (DerivedEvent IERREffect)) : DerivedEvent IERREffect → Prop
  | .base (.assertHandler now timeoutMs) => ∃ start earlierMs,
      windowStart before = some (start, earlierMs) ∧ start + nanoseconds timeoutMs < now
  | _ => True

/-- The poll reports: it sees the signal asserted past the deadline. -/
def Reports (env : Interference) (s : BaseGPIOPollMonitor) : Prop :=
  sees env s = true ∧ s.timeoutTime < s.clock + env.delay

/-- The timeout is no larger than it was at the latest `startPolling`. -/
def NotRaised (c : DerivedMonitor IERRMonitor × List (DerivedEvent IERREffect)) : Prop :=
  match windowStart c.2 with
  | none => True
  | some (_, timeoutMs) => getIERRTimeoutMs c.1 ≤ timeoutMs

/-- The condition on a step: a timer handler whose poll reports finds the timeout
not raised within the window. -/
def WritesSettled (c : DerivedMonitor IERRMonitor × List (DerivedEvent IERREffect)) :
    IERRInput → Prop
  | .monitor (.timerHandler w) => Reports w.poll c.1.base → NotRaised c
  | _ => True

instance (c : DerivedMonitor IERRMonitor × List (DerivedEvent IERREffect)) :
    Decidable (NotRaised c) := by
  unfold NotRaised
  split
  · exact inferInstanceAs (Decidable True)
  · exact inferInstanceAs (Decidable (_ ≤ _))

instance (c : DerivedMonitor IERRMonitor × List (DerivedEvent IERREffect)) (i : IERRInput) :
    Decidable (WritesSettled c i) :=
  match i with
  | .monitor (.timerHandler _) => inferInstanceAs (Decidable (_ ∧ _ → _))
  | .monitor (.inherited _) | .monitor (.hostOn _) | .monitor (.hostTurnsOn _)
  | .monitor (.eventHandler _) | .ierrTimeoutMs _ => .isTrue trivial

/-- The deadline is the timeout of the latest `startPolling` after it, and the
timeout in force is one that the property takes. -/
structure Deadline (c : DerivedMonitor IERRMonitor × List (DerivedEvent IERREffect)) : Prop where
  window : ∃ start timeoutMs, windowStart c.2 = some (start, timeoutMs) ∧
    c.1.base.timeoutTime = start + nanoseconds timeoutMs
  bounded : c.1.base.timeoutMs ≤ ierrTimeoutMsMax
  honoured : Justified Honoured c.2

theorem windowStart_append (tr out : List (DerivedEvent IERREffect))
    (untimed : ∀ x ∈ out, isTimed x = false) : windowStart (tr ++ out) = windowStart tr := by
  unfold windowStart
  rw [latest_append_unmarked isTimed tr out untimed]

theorem seen_untimed (env : Interference) (s : BaseGPIOPollMonitor) :
    ∀ x ∈ (seen env s).map (DerivedEvent.base (ε := IERREffect)),
      isTimed x = false ∧ ∀ before, Honoured before x := by
  intro x member
  rcases mem_seen_base member with rfl | rfl | rfl <;> exact ⟨rfl, fun _ => trivial⟩

/-- The effects of an override, and the events that stand around them. -/
theorem own_untimed (effects : List IERREffect) :
    ∀ x ∈ effects.map (DerivedEvent.own (ε := IERREffect)) ++ [.base .waitForEvent],
      isTimed x = false ∧ ∀ before, Honoured before x := by
  intro x member
  rcases List.mem_append.mp member with own | wait
  · obtain ⟨effect, _, rfl⟩ := List.mem_map.mp own
    exact ⟨rfl, fun _ => trivial⟩
  · rw [List.mem_singleton.mp wait]
    exact ⟨rfl, fun _ => trivial⟩

/-- Every admitted timeout is one that `int` milliseconds can count. -/
theorem intMilliseconds_of_bounded (cfg : PollConfig) (timeoutMs : Nat)
    (bounded : timeoutMs ≤ ierrTimeoutMsMax) : intMilliseconds cfg timeoutMs = timeoutMs := by
  apply intMilliseconds_of_fits
  apply fits_of_lt
  unfold ierrTimeoutMsMax at bounded
  omega

/-- A step that leaves the deadline and the timeout as they are, and reports nothing. -/
theorem deadline_quiet {m m' : DerivedMonitor IERRMonitor} {tr out : List (DerivedEvent IERREffect)}
    (deadline : Deadline (m, tr))
    (quiet : ∀ x ∈ out, isTimed x = false ∧ ∀ before, Honoured before x)
    (time : m'.base.timeoutTime = m.base.timeoutTime)
    (bounded : m'.base.timeoutMs ≤ ierrTimeoutMsMax) : Deadline (m', tr ++ out) := by
  obtain ⟨⟨start, timeoutMs, opened, value⟩, _, honoured⟩ := deadline
  refine ⟨⟨start, timeoutMs, ?_, time.trans value⟩, bounded, ?_⟩
  · rw [windowStart_append tr out fun x member => (quiet x member).1]
    exact opened
  · exact justified_append_free Honoured tr out honoured fun x member => (quiet x member).2

/-- A poll whose report, if it makes one, finds the timeout not raised. -/
theorem poll_deadline {w : Surroundings} {m : DerivedMonitor IERRMonitor}
    {tr : List (DerivedEvent IERREffect)} (deadline : Deadline (m, tr))
    (settled : Reports w.poll m.base → NotRaised (m, tr)) :
    Deadline ((poll (overrides lib) cfg w m).1, tr ++ (poll (overrides lib) cfg w m).2) := by
  have bounded := deadline.bounded
  have before : Deadline (m, tr ++ (seen w.poll m.base).map .base) :=
    deadline_quiet deadline (seen_untimed w.poll m.base) rfl bounded
  rcases DerivedMonitor.poll_cases (overrides lib) cfg w m with ⟨_, result⟩ | ⟨saw, late, result⟩ |
    ⟨_, _, result⟩
  · rw [result, ← List.append_assoc]
    refine deadline_quiet before ?_ (by simp [BaseGPIOPollMonitor.waitForEvent])
      (by simpa [BaseGPIOPollMonitor.waitForEvent] using bounded)
    intro x member
    rcases mem_handled member with rfl | ⟨effect, _, rfl⟩ | rfl <;> exact ⟨rfl, fun _ => trivial⟩
  · have notRaised := settled ⟨saw, late⟩
    obtain ⟨start, timeoutMs, opened, value⟩ := deadline.window
    have kept : m.base.timeoutMs ≤ timeoutMs := by
      unfold NotRaised at notRaised
      rw [opened] at notRaised
      exact notRaised
    have opened' := windowStart_append tr ((seen w.poll m.base).map .base)
      fun x member => (seen_untimed w.poll m.base x member).1
    have report : Honoured (tr ++ (seen w.poll m.base).map .base)
        (.base (.assertHandler (m.base.clock + w.poll.delay) m.base.timeoutMs)) := by
      refine ⟨start, timeoutMs, opened'.trans opened, ?_⟩
      simp only [nanoseconds] at value ⊢
      omega
    have reported : Deadline (m, tr ++ (seen w.poll m.base).map .base ++
        [.base (.assertHandler (m.base.clock + w.poll.delay) m.base.timeoutMs)]) := by
      refine ⟨⟨start, timeoutMs, ?_, value⟩, bounded, justified_concat Honoured _ _ before.honoured report⟩
      rw [windowStart_append _ _ (by simp [isTimed]), opened']
      exact opened
    rw [result]
    have after := @deadline_quiet m ⟨BaseGPIOPollMonitor.waitForEvent
        (BaseGPIOPollMonitor.polled w.poll m.base), ((overrides lib).assertHandler w.peci m.own).1⟩
      _ _ reported (own_untimed ((overrides lib).assertHandler w.peci m.own).2)
      (by simp [BaseGPIOPollMonitor.waitForEvent])
      (by simpa [BaseGPIOPollMonitor.waitForEvent] using bounded)
    simpa using after
  · rw [result, ← List.append_assoc]
    refine deadline_quiet before ?_ (by simp [BaseGPIOPollMonitor.armTimer, BaseGPIOPollMonitor.elapse])
      (by simpa [BaseGPIOPollMonitor.armTimer, BaseGPIOPollMonitor.elapse] using bounded)
    intro x member
    rw [List.mem_singleton.mp member]
    exact ⟨rfl, fun _ => trivial⟩

/-- A `startPolling` sets the deadline of its window, whatever the one before was. -/
theorem starts_deadline {w : Surroundings} {m : DerivedMonitor IERRMonitor}
    {tr : List (DerivedEvent IERREffect)} (bounded : m.base.timeoutMs ≤ ierrTimeoutMsMax)
    (honoured : Justified Honoured tr) :
    Deadline ((startPolling (overrides lib) cfg w m).1,
      tr ++ (startPolling (overrides lib) cfg w m).2) := by
  have opened : windowStart (tr ++ starting (overrides lib) w m) =
      some ((meanwhile w m.base).clock, m.base.timeoutMs) := by
    unfold windowStart starting
    rw [← List.append_assoc, latest_append_marked isTimed _ [] _ rfl (by simp)]
  have free : ∀ x ∈ starting (overrides lib) w m, ∀ before, Honoured before x := by
    intro x member before
    rcases mem_starting member with rfl | ⟨effect, _, rfl⟩ | rfl | rfl <;> trivial
  have started : Deadline (restarted (overrides lib) cfg w m,
      tr ++ starting (overrides lib) w m) := by
    refine ⟨⟨_, _, opened, ?_⟩, bounded, justified_append_free Honoured _ _ honoured free⟩
    have exactly := intMilliseconds_of_bounded cfg _ bounded
    simp only [restarted, BaseGPIOPollMonitor.restarted]
    rw [← exactly]
    rfl
  rw [startPolling_eq, ← List.append_assoc]
  refine poll_deadline started fun _ => ?_
  unfold NotRaised
  rw [opened]
  exact Nat.le_refl _

theorem deadline_step {c c' : DerivedMonitor IERRMonitor × List (DerivedEvent IERREffect)}
    {i : IERRInput} (deadline : Deadline c) (settled : WritesSettled c i)
    (next : (ierrMachine lib cfg).next c i = some c') : Deadline c' := by
  obtain ⟨m', out, step, rfl⟩ := (ierrMachine lib cfg).next_some.mp next
  rcases ierr_step_cases step with ⟨i, rfl, own, step⟩ | ⟨requested, rfl, within, rfl, rfl⟩ |
    ⟨requested, rfl, above, rfl, rfl⟩
  · rcases derived_step_cases step with ⟨j, base, events, rfl, inherited, answered, rfl, rfl⟩ |
      ⟨w, m, announced, started, hostOn, _, rfl, rfl⟩ | ⟨w, rfl, _, run⟩
    · obtain ⟨trace, time, timeout, _⟩ := inherited_step inherited answered
      have kept : base.timeoutMs = c.1.base.timeoutMs := by
        rcases timeout with kept | rfl
        · exact kept
        · cases own
      refine deadline_quiet deadline ?_ time (by simpa only [kept] using deadline.bounded)
      rcases trace with rfl | rfl <;> simp [isTimed, Honoured]
    · have bounded : m.base.timeoutMs ≤ ierrTimeoutMsMax := by
        have same : m.base.timeoutMs = c.1.base.timeoutMs := by
          cases i <;> cases started <;> rfl
        rw [same]
        exact deadline.bounded
      rw [← List.append_assoc]
      exact starts_deadline bounded
        (justified_announced (fun _ => trivial) hostOn deadline.honoured)
    · have same : Reports w.poll { c.1.base with timerReady := c.1.base.timerReady - 1 } →
          Reports w.poll c.1.base := by
        unfold Reports
        rw [BaseGPIOPollMonitor.sees_eq, BaseGPIOPollMonitor.sees_eq]
        exact id
      have after := @poll_deadline lib cfg w
        { c.1 with base := { c.1.base with timerReady := c.1.base.timerReady - 1 } } c.2
        ⟨deadline.window, deadline.bounded, deadline.honoured⟩ fun reports => settled (same reports)
      rwa [run] at after
  · exact deadline_quiet deadline (by simp [isTimed, Honoured]) rfl within
  · exact deadline_quiet deadline (by simp [isTimed, Honoured]) rfl deadline.bounded

theorem deadline_initial (l : ValidPollLine) (signalName customName : String) :
    Deadline (IERRMonitor.initial lib cfg l signalName customName) := by
  unfold IERRMonitor.initial
  rw [ValidPollLine.initial_eq]
  exact @starts_deadline lib cfg l.start _ [] (show ierrTimeoutMsDefault ≤ ierrTimeoutMsMax by decide)
    (justified_nil Honoured)

/-- Every report comes later than the timeout then in force in a run in which no
report is made with the timeout raised within its window. -/
theorem report_honours_timeout (lib : Libpeci) (cfg : PollConfig) (l : ValidPollLine)
    (signalName customName : String) (is : List IERRInput)
    (settled : (ierrMachine lib cfg).Along WritesSettled
      (IERRMonitor.initial lib cfg l signalName customName) is) :
    (ierrMachine lib cfg).Always (fun c => Justified Honoured c.2)
      (IERRMonitor.initial lib cfg l signalName customName) is :=
  (ierrMachine lib cfg).always_of_invariant
    (fun _ _ _ deadline ok next => deadline_step deadline ok next)
    (fun _ deadline => deadline.honoured) (deadline_initial l signalName customName) settled

/-- A handler that nothing disturbs, while no CPU answers. -/
def undisturbedIerr : Surroundings where
  peci := { mc4Unreadable libpeci with getCPUID := fun _ => (.ccCpuNotPresent, .skylake) }
  edges := 0
  delay := 0
  poll := ⟨0, 0, 0, 0⟩

/-- The IERR signal is asserted when the monitor starts, with the host on. -/
def assertedIerr : ValidPollLine where
  setup := assertedAtStart.setup
  valid := assertedAtStart.valid
  clock := 0
  line := true
  unread := 0
  hostOff := false
  start := undisturbedIerr

def ierrConfig : PollConfig :=
  IERRMonitor.config everySecond.intBits everySecond.intBits_ge

/-- The timeout is raised, and the next window is timed by it. -/
def raisedBeforeHostOn : List IERRInput :=
  [.ierrTimeoutMs 3000, .monitor (.hostOn undisturbedIerr),
    .monitor (.inherited (.tick 3100000000)), .monitor (.inherited .timerExpires),
    .monitor (.timerHandler undisturbedIerr)]

theorem raised_timeout_honoured :
    ((ierrMachine libpeci ierrConfig).exec
      (IERRMonitor.initial libpeci ierrConfig assertedIerr "CPU_CATERR" "")
      raisedBeforeHostOn).isSome = true ∧
    (ierrMachine libpeci ierrConfig).Always (fun c => Justified Honoured c.2)
      (IERRMonitor.initial libpeci ierrConfig assertedIerr "CPU_CATERR" "") raisedBeforeHostOn :=
  ⟨by decide, report_honours_timeout libpeci ierrConfig assertedIerr "CPU_CATERR" ""
    raisedBeforeHostOn (by decide)⟩

/-- The timeout is raised to ten minutes while an assertion is timed; the deadline
of two seconds still triggers the report. -/
theorem raised_timeout_ignored : ∃ c,
    (ierrMachine libpeci ierrConfig).exec
      (IERRMonitor.initial libpeci ierrConfig assertedIerr "CPU_CATERR" "")
      [.ierrTimeoutMs 600000, .monitor (.inherited (.tick 2100000000)),
        .monitor (.inherited .timerExpires), .monitor (.timerHandler undisturbedIerr)] = some c ∧
    ¬ Justified Honoured c.2 := by
  refine ⟨_, rfl, fun honoured => ?_⟩
  obtain ⟨start, earlierMs, opened, elapsed⟩ := honoured
    [.startPolling true, .base (.startPolling 0 2000), .base .flushEvents, .base (.asserted true),
      .base (.armTimer 100000000), .own (.ierrTimeoutMs 600000 true), .base .flushEvents,
      .base (.asserted true)] (.base (.assertHandler 2100000000 600000)) _ rfl
  cases opened
  exact absurd elapsed (by decide)

end HostErrorMonitor.Guarantees
