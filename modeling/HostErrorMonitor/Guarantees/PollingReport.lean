import HostErrorMonitor.Reactive.Trace
import HostErrorMonitor.Guarantees.PollingAssertion

/-!
# No duplicate report

After a report the monitor only waits for an edge. With a single chain nothing
else can enter `poll`, so until an edge comes or `hostOn` is called there is no
further report, whatever the timeout is set to.
-/
namespace HostErrorMonitor.Guarantees
open HostErrorMonitor.Source HostErrorMonitor.Source.BaseGPIOPollMonitor Reactive

def isReport : PollEvent → Bool
  | .assertHandler _ _ => true
  | _ => false

/-- Since the latest report there was a `hostOn`, or an edge after the flush of
the poll that made that report. -/
def RenewedSinceReport (before : List PollEvent) : Prop :=
  ∀ earlier now timeoutMs, before = earlier ++ .assertHandler now timeoutMs :: since isReport before →
    .edge ∈ since isFlush earlier ∨ .edge ∈ since isReport before ∨ .hostOn ∈ since isReport before

/-- A report is not made twice of one assertion. -/
def NotRepeated (before : List PollEvent) : PollEvent → Prop
  | .assertHandler _ _ => RenewedSinceReport before
  | _ => True

/-- Nothing but an edge can wake the monitor, and there is none to be read. -/
structure Quiet (s : BaseGPIOPollMonitor) : Prop where
  eventReady : s.eventReady = 0
  timerReady : s.timerReady = 0
  timerWait : s.timerWait = none
  unread : s.unread = 0

/-- With one chain, the monitor is quiet from a report until something renews it. -/
structure Reporting (c : BaseGPIOPollMonitor × List PollEvent) : Prop where
  single : SingleChain c
  quiet : RenewedSinceReport c.2 ∨ Quiet c.1
  justified : Justified NotRepeated c.2

theorem seen_unreported (env : Interference) (s : BaseGPIOPollMonitor) (x : PollEvent)
    (member : x ∈ seen env s) : isReport x = false := by
  rcases mem_seen member with rfl | rfl | rfl <;> rfl

theorem seen_append_unreported (env : Interference) (s : BaseGPIOPollMonitor)
    {tail : List PollEvent} (unreported : ∀ x ∈ tail, isReport x = false) (x : PollEvent)
    (member : x ∈ seen env s ++ tail) : isReport x = false := by
  rcases List.mem_append.mp member with sample | late
  · exact seen_unreported env s x sample
  · exact unreported x late

/-- What is no report is always allowed. -/
theorem notRepeated_of_unreported {out : List PollEvent} (unreported : ∀ x ∈ out, isReport x = false)
    (x : PollEvent) (member : x ∈ out) (before : List PollEvent) : NotRepeated before x := by
  have := unreported x member
  cases x with
  | assertHandler now timeoutMs => cases this
  | _ => trivial

/-- A report that was renewed stays so while none is made. -/
theorem renewed_append {tr out : List PollEvent} (unreported : ∀ x ∈ out, isReport x = false)
    (renewed : RenewedSinceReport tr) : RenewedSinceReport (tr ++ out) := by
  intro earlier now timeoutMs split
  rw [since_append_unmarked isReport tr out unreported] at split ⊢
  have same : tr = earlier ++ .assertHandler now timeoutMs :: since isReport tr := by
    have : tr ++ out = (earlier ++ .assertHandler now timeoutMs :: since isReport tr) ++ out := by
      simpa using split
    exact List.append_cancel_right this
  rcases renewed earlier now timeoutMs same with flushed | edge | on
  · exact Or.inl flushed
  · exact Or.inr (Or.inl (List.mem_append_left out edge))
  · exact Or.inr (Or.inr (List.mem_append_left out on))

theorem renewed_of_edge {tr out : List PollEvent} (unreported : ∀ x ∈ out, isReport x = false)
    (edge : .edge ∈ out) : RenewedSinceReport (tr ++ out) := by
  intro earlier now timeoutMs _
  rw [since_append_unmarked isReport tr out unreported]
  exact Or.inr (Or.inl (List.mem_append_right _ edge))

theorem renewed_of_hostOn {tr out : List PollEvent} (unreported : ∀ x ∈ out, isReport x = false)
    (on : .hostOn ∈ out) : RenewedSinceReport (tr ++ out) := by
  intro earlier now timeoutMs _
  rw [since_append_unmarked isReport tr out unreported]
  exact Or.inr (Or.inr (List.mem_append_right _ on))

/-- A poll that may report, since the last report was renewed. -/
theorem poll_reporting {cfg : PollConfig} {env : Interference} {s : BaseGPIOPollMonitor}
    {tr : List PollEvent} (renewed : RenewedSinceReport tr) (justified : Justified NotRepeated tr)
    (single : continuations (poll cfg env s).1 = 1) :
    Reporting ((poll cfg env s).1, tr ++ (poll cfg env s).2) := by
  have before := justified_append_free NotRepeated tr (seen env s) justified
    (notRepeated_of_unreported (seen_unreported env s))
  rcases poll_cases cfg env s with ⟨saw, result⟩ | ⟨saw, late, result⟩ | ⟨saw, early, result⟩
  · rw [result] at single ⊢
    have unreported := @seen_append_unreported env s [.deassertHandler, .waitForEvent]
      (by simp [isReport])
    exact ⟨single, Or.inl (renewed_append unreported renewed),
      justified_append_free NotRepeated tr _ justified (notRepeated_of_unreported unreported)⟩
  · rw [result] at single ⊢
    have report : NotRepeated (tr ++ seen env s) (.assertHandler (s.clock + env.delay) s.timeoutMs) :=
      renewed_append (seen_unreported env s) renewed
    have reported := justified_concat NotRepeated _ _ before report
    have waited := justified_append_free NotRepeated _ [.waitForEvent] reported
      (by simp [NotRepeated])
    refine ⟨single, ?_, by simpa using waited⟩
    -- an edge while this poll ran renews the report that it makes
    rcases Nat.eq_zero_or_pos (env.edgesBeforeRead + env.edgesAfterRead) with still | moved
    · apply Or.inr
      simp only [continuations, outstandingWaits, waitForEvent, polled_eventWaits,
        polled_timerWait, polled_eventReady, polled_timerReady] at single
      refine ⟨by simp only [waitForEvent, polled_eventReady]; omega,
        by simp only [waitForEvent, polled_timerReady]; omega, ?_,
        by simp only [waitForEvent, polled_unread]; omega⟩
      cases idle : s.timerWait with
      | none => simp [waitForEvent, idle]
      | some expiry =>
        rw [idle, Option.isSome_some, Bool.toNat_true] at single
        omega
    · refine Or.inl fun earlier now timeoutMs split => Or.inl ?_
      have sinceReport : since isReport (tr ++ (seen env s ++
          [.assertHandler (s.clock + env.delay) s.timeoutMs, .waitForEvent])) = [.waitForEvent] := by
        rw [← List.append_assoc]
        exact since_append_marked isReport _ [.waitForEvent] _ rfl (by simp [isReport])
      rw [sinceReport] at split
      have flushed : earlier = tr ++ (seen env s ++ []) := by
        have : (tr ++ seen env s) ++ [.assertHandler (s.clock + env.delay) s.timeoutMs, .waitForEvent] =
            earlier ++ [.assertHandler now timeoutMs, .waitForEvent] := by simpa using split
        have := (List.append_inj' this rfl).1
        simpa using this.symm
      rw [flushed, edge_since_poll tr [] env s (by simp) (by simp)]
      exact moved
  · rw [result] at single ⊢
    have unreported := @seen_append_unreported env s [.armTimer (nextPoll cfg env s)]
      (by simp [isReport])
    exact ⟨single, Or.inl (renewed_append unreported renewed),
      justified_append_free NotRepeated tr _ justified (notRepeated_of_unreported unreported)⟩

theorem startPolling_reporting {cfg : PollConfig} {env : Interference} {s : BaseGPIOPollMonitor}
    {tr : List PollEvent} (renewed : RenewedSinceReport tr) (justified : Justified NotRepeated tr)
    (single : continuations (startPolling cfg env s).1 = 1) :
    Reporting ((startPolling cfg env s).1, tr ++ (startPolling cfg env s).2) := by
  rw [startPolling_eq] at single ⊢
  have reporting := @poll_reporting cfg env (restarted cfg s)
    (tr ++ [.startPolling s.clock s.timeoutMs])
    (renewed_append (by simp [isReport]) renewed)
    (justified_append_free NotRepeated tr _ justified (by simp [NotRepeated])) single
  simpa using reporting

theorem hostOn_reporting {cfg : PollConfig} {env : Interference} {s : BaseGPIOPollMonitor}
    {tr : List PollEvent} (justified : Justified NotRepeated tr)
    (single : continuations (hostOn cfg env s).1 = 1) :
    Reporting ((hostOn cfg env s).1, tr ++ (hostOn cfg env s).2) := by
  have reporting := @startPolling_reporting cfg env { s with eventWaits := 0 } (tr ++ [.hostOn])
    (renewed_of_hostOn (by simp [isReport]) (by simp))
    (justified_append_free NotRepeated tr _ justified (by simp [NotRepeated])) single
  simpa [hostOn] using reporting

/-- A step that leaves the waits, the queued handlers and the edges as they are. -/
theorem reporting_unmoved {s s' : BaseGPIOPollMonitor} {tr : List PollEvent}
    (reporting : Reporting (s, tr)) (single : SingleChain (s', tr))
    (eventReady : s'.eventReady = s.eventReady) (timerReady : s'.timerReady = s.timerReady)
    (timerWait : s'.timerWait = s.timerWait) (unread : s'.unread = s.unread) :
    Reporting (s', tr) := by
  refine ⟨single, reporting.quiet.imp_right fun quiet => ?_, reporting.justified⟩
  exact ⟨eventReady.trans quiet.eventReady, timerReady.trans quiet.timerReady,
    timerWait.trans quiet.timerWait, unread.trans quiet.unread⟩

theorem reporting_step {cfg : PollConfig} {c c' : BaseGPIOPollMonitor × List PollEvent}
    {i : PollInput} (reporting : Reporting c) (takesOver : HostOnTakesOver cfg c i)
    (next : (pollMachine cfg).next c i = some c') : Reporting c' := by
  have single := single_step reporting.single takesOver next
  obtain ⟨s, out, step, rfl⟩ := (pollMachine cfg).next_some.mp next
  rcases poll_step_cases step with ⟨rfl, rfl, rfl⟩ | ⟨ns, rfl, rfl, rfl⟩ | ⟨ms, rfl, rfl, rfl⟩ |
    ⟨off, rfl, rfl, rfl⟩ | ⟨rfl, waiting, unread, rfl, rfl⟩ |
    ⟨expiry, rfl, waiting, _, rfl, rfl⟩ |
    ⟨env, off, entered, run⟩ | ⟨env, rfl, queued, run⟩ | ⟨env, rfl, queued, run⟩
  · exact ⟨single, Or.inl (renewed_of_edge (by simp [isReport]) (by simp)),
      justified_append_free NotRepeated _ _ reporting.justified (by simp [NotRepeated])⟩
  · rw [List.append_nil] at single ⊢
    exact reporting_unmoved reporting single rfl rfl rfl rfl
  · rw [List.append_nil] at single ⊢
    exact reporting_unmoved reporting single rfl rfl rfl rfl
  · rw [List.append_nil] at single ⊢
    exact reporting_unmoved reporting single rfl rfl rfl rfl
  · rw [List.append_nil] at single ⊢
    refine ⟨single, Or.inl ?_, reporting.justified⟩
    rcases reporting.quiet with renewed | quiet
    · exact renewed
    · have := quiet.unread
      omega
  · rw [List.append_nil] at single ⊢
    refine ⟨single, Or.inl ?_, reporting.justified⟩
    rcases reporting.quiet with renewed | quiet
    · exact renewed
    · rw [quiet.timerWait] at waiting
      cases waiting
  · have after := @hostOn_reporting cfg env { c.1 with hostOff := off } c.2 reporting.justified
    rw [run] at after
    exact after single
  · have renewed : RenewedSinceReport c.2 := by
      rcases reporting.quiet with renewed | quiet
      · exact renewed
      · have := quiet.eventReady
        omega
    have after := @startPolling_reporting cfg env { c.1 with eventReady := c.1.eventReady - 1 } c.2
      renewed reporting.justified
    rw [run] at after
    exact after single
  · have renewed : RenewedSinceReport c.2 := by
      rcases reporting.quiet with renewed | quiet
      · exact renewed
      · have := quiet.timerReady
        omega
    have after := @poll_reporting cfg env { c.1 with timerReady := c.1.timerReady - 1 } c.2
      renewed reporting.justified
    rw [run] at after
    exact after single

theorem reporting_initial (cfg : PollConfig) (m : ValidMonitor) : Reporting (m.initial cfg) := by
  have single := single_initial cfg m
  rw [ValidMonitor.initial_eq] at single ⊢
  have unreported : RenewedSinceReport [] := fun earlier now timeoutMs split => by simp at split
  have reporting := @startPolling_reporting cfg m.env
    (construct m.setup m.timeoutMs m.clock m.line m.unread m.hostOff) [] unreported
    (justified_nil NotRepeated) single
  simpa using reporting

/-- No report is repeated in a run in which each `hostOn` takes the chain over:
between two reports there is an edge or a `hostOn`. -/
theorem report_not_repeated (cfg : PollConfig) (m : ValidMonitor) (is : List PollInput)
    (takesOver : (pollMachine cfg).Along (HostOnTakesOver cfg) (m.initial cfg) is) :
    (pollMachine cfg).Always (fun c => Justified NotRepeated c.2) (m.initial cfg) is :=
  (pollMachine cfg).always_of_invariant
    (fun _ _ _ reporting ok next => reporting_step reporting ok next)
    (fun _ reporting => reporting.justified) (reporting_initial cfg m) takesOver

/-- A report, then two edges, and a second report of the new assertion. -/
def reportedAgain : List PollInput :=
  [.tick 2500000000, .timerExpires, .timerHandler ⟨0, 0, 0, 0⟩, .edge, .edge, .setTimeoutMs 0,
    .eventCompletes, .eventHandler ⟨0, 0, 1, 0⟩]

theorem report_again_after_edges :
    ((pollMachine everySecond).exec (assertedAtStart.initial everySecond)
      reportedAgain).isSome = true ∧
    (pollMachine everySecond).Always (fun c => Justified NotRepeated c.2)
      (assertedAtStart.initial everySecond) reportedAgain :=
  ⟨by decide, report_not_repeated everySecond assertedAtStart reportedAgain (by decide)⟩

/-- The timeout is set to 0 while the timer is pending: the poll of `hostOn`
reports at once, and the timer that it leaves pending reports again. -/
theorem report_repeated_by_old_timer :
    ∃ c, (pollMachine everySecond).exec (assertedAtStart.initial everySecond)
        [.tick 1000000000, .setTimeoutMs 0, .hostOn ⟨0, 0, 1, 0⟩, .timerExpires,
          .timerHandler ⟨0, 0, 1, 0⟩] = some c ∧ ¬ Justified NotRepeated c.2 := by
  refine ⟨_, rfl, fun justified => ?_⟩
  have renewed := justified
    [.startPolling 0 2000, .flushEvents, .asserted true, .armTimer 1000000000, .hostOn,
      .startPolling 1000000000 0, .flushEvents, .asserted true, .assertHandler 1000000001 0,
      .waitForEvent, .flushEvents, .asserted true]
    (.assertHandler 1000000002 0) [.waitForEvent] rfl
  have none_of_three := renewed
    [.startPolling 0 2000, .flushEvents, .asserted true, .armTimer 1000000000, .hostOn,
      .startPolling 1000000000 0, .flushEvents, .asserted true] 1000000001 0 rfl
  revert none_of_three
  decide

end HostErrorMonitor.Guarantees
