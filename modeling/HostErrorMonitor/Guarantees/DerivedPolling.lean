import HostErrorMonitor.Reactive.Trace
import HostErrorMonitor.Guarantees.PollingChain
import HostErrorMonitor.Source.PollOverrides

/-!
# Reports of a derived monitor and the windows they close

A derived monitor keeps a single chain under the same condition as its base.
Then a timer is pending only in a window whose polls all saw the signal asserted,
so what a call of `startPolling` records, when its own poll sees the signal
asserted, still holds when a later poll of the window reports.
-/
namespace HostErrorMonitor.Guarantees
open HostErrorMonitor.Source HostErrorMonitor.Source.DerivedMonitor Reactive
open BaseGPIOPollMonitor (asserted sees seen polled waitForEvent armTimer elapse)

variable {σ ε : Type} {o : PollOverrides σ ε} {cfg : PollConfig}

/-- A window begins with each call of the virtual `startPolling`. -/
def isWindow : DerivedEvent ε → Bool
  | .startPolling _ => true
  | _ => false

/-- The condition on a step: each `hostOn` takes the chain of the base over. -/
def OverridesTakeOver (cfg : PollConfig) (c : DerivedMonitor σ × List (DerivedEvent ε))
    (i : DerivedInput) : Prop :=
  HostOnTakesOver cfg (i.entered c.1.base, []) i.toBase

instance (c : DerivedMonitor σ × List (DerivedEvent ε)) (i : DerivedInput) :
    Decidable (OverridesTakeOver cfg c i) := inferInstanceAs (Decidable (HostOnTakesOver _ _ _))

/-- A timer wait is outstanding, or its success handler is queued. -/
def TimerPending (s : BaseGPIOPollMonitor) : Prop := s.timerWait ≠ none ∨ 0 < s.timerReady

theorem derived_single_step {c c' : DerivedMonitor σ × List (DerivedEvent ε)} {i : DerivedInput}
    (single : continuations c.1.base = 1) (takesOver : OverridesTakeOver cfg c i)
    (next : (derivedMachine o cfg).next c i = some c') : continuations c'.1.base = 1 := by
  obtain ⟨m', out, step, rfl⟩ := (derivedMachine o cfg).next_some.mp next
  obtain ⟨events, answered⟩ := derived_step_base step
  have entered : SingleChain (i.entered c.1.base, ([] : List PollEvent)) := by
    cases i <;> exact single
  exact single_step entered takesOver
    ((pollMachine cfg).next_some.mpr ⟨m'.base, events, answered, rfl⟩)

/-- A `startPolling` in a single chain meets no timer but one that it arms anew. -/
theorem starts_alone {c : DerivedMonitor σ × List (DerivedEvent ε)} {i : DerivedInput}
    {w : Surroundings} {m : DerivedMonitor σ} (single : continuations c.1.base = 1)
    (takesOver : OverridesTakeOver cfg c i) (started : i.starts c.1 = some (w, m))
    (queued : (∃ v, i = .eventHandler v) → 0 < c.1.base.eventReady) :
    m.base.timerReady = 0 ∧
      (m.base.timerWait = none ∨ Rearms w.poll (restarted o cfg w m).base) := by
  cases i with
  | hostOn v =>
    cases started
    obtain ⟨_, timerReady, alone⟩ := takesOver
    exact ⟨timerReady, alone.imp_right (rearms_restarted cfg w.poll (meanwhile w c.1.base) 0).mpr⟩
  | hostTurnsOn v =>
    cases started
    obtain ⟨_, timerReady, alone⟩ := takesOver
    exact ⟨timerReady, alone.imp_right
      (rearms_restarted cfg w.poll { meanwhile w c.1.base with hostOff := false } 0).mpr⟩
  | eventHandler v =>
    cases started
    have ready := queued ⟨w, rfl⟩
    obtain ⟨idle, _, one⟩ := single_idle single (by omega)
    exact ⟨by simp only; omega, Or.inl idle⟩
  | inherited j => cases started
  | timerHandler v => cases started

theorem seen_windowless (env : Interference) (s : BaseGPIOPollMonitor) :
    ∀ x ∈ (seen env s).map (DerivedEvent.base (ε := ε)), isWindow x = false := by
  intro x member
  rcases mem_seen_base member with rfl | rfl | rfl <;> rfl

/-- What `hostOn` leaves before it calls `startPolling` needs no license. -/
theorem justified_announced {license : List (DerivedEvent ε) → DerivedEvent ε → Prop}
    {tr announced : List (DerivedEvent ε)} (free : ∀ before, license before (.base .hostOn))
    (hostOn : ∀ x ∈ announced, x = .base .hostOn) (justified : Justified license tr) :
    Justified license (tr ++ announced) := by
  apply justified_append_free license tr announced justified
  intro x member before
  rw [hostOn x member]
  exact free before

/-- A property of the window that a trace ends with. -/
def OfWindow (W : List (DerivedEvent ε) → Prop) : Prop :=
  ∀ tr out, W tr → (∀ x ∈ out, isWindow x = false) → W (tr ++ out)

/-- Each effect that `isReport` marks is one of a window with `W`. -/
def ReportedIn (W : List (DerivedEvent ε) → Prop) (isReport : ε → Bool)
    (before : List (DerivedEvent ε)) : DerivedEvent ε → Prop
  | .own effect => isReport effect = true → W before
  | _ => True

/-- With one chain: while the timer can go on, the window has `W`. -/
structure WindowReports (W : List (DerivedEvent ε) → Prop) (isReport : ε → Bool)
    (c : DerivedMonitor σ × List (DerivedEvent ε)) : Prop where
  single : continuations c.1.base = 1
  timer : TimerPending c.1.base → W c.2
  justified : Justified (ReportedIn W isReport) c.2

/-- Reports come from `assertHandler` alone. -/
structure ReportsOnAssert (o : PollOverrides σ ε) (isReport : ε → Bool) : Prop where
  starting : ∀ peci own, ∀ effect ∈ (o.startPolling peci own).2, isReport effect = false
  deasserting : ∀ own, ∀ effect ∈ (o.deassertHandler own).2, isReport effect = false

/-- A call of `startPolling` whose poll sees the signal asserted opens a window with `W`. -/
def Opens (o : PollOverrides σ ε) (cfg : PollConfig) (W : List (DerivedEvent ε) → Prop)
    (w : Surroundings) (m : DerivedMonitor σ) : Prop :=
  sees w.poll (restarted o cfg w m).base = true →
    ∀ tr, W (tr ++ starting o w m ++ (seen w.poll (restarted o cfg w m).base).map .base)

section windows
variable {W : List (DerivedEvent ε) → Prop} {isReport : ε → Bool}

/-- A poll that, where it sees the signal asserted, is in a window with `W`. -/
theorem poll_windowReports {w : Surroundings} {m : DerivedMonitor σ} {tr : List (DerivedEvent ε)}
    (window : OfWindow W) (quiet : ReportsOnAssert o isReport)
    (timerReady : m.base.timerReady = 0) (alone : m.base.timerWait = none ∨ Rearms w.poll m.base)
    (opened : sees w.poll m.base = true → W (tr ++ (seen w.poll m.base).map .base))
    (justified : Justified (ReportedIn W isReport) tr)
    (single : continuations (poll o cfg w m).1.base = 1) :
    WindowReports W isReport ((poll o cfg w m).1, tr ++ (poll o cfg w m).2) := by
  have before : Justified (ReportedIn W isReport) (tr ++ (seen w.poll m.base).map .base) := by
    apply justified_append_free _ tr _ justified
    intro x member _
    obtain ⟨event, _, rfl⟩ := List.mem_map.mp member
    trivial
  rcases DerivedMonitor.poll_cases o cfg w m with ⟨saw, result⟩ | ⟨saw, late, result⟩ |
    ⟨saw, early, result⟩
  · have idle : m.base.timerWait = none := by
      rcases alone with idle | rearms
      · exact idle
      · rw [rearms.1] at saw
        cases saw
    rw [result] at single ⊢
    refine ⟨single, fun pending => ?_, ?_⟩
    · simp [TimerPending, waitForEvent, idle, timerReady] at pending
    · rw [← List.append_assoc]
      apply justified_append_free _ _ _ before
      intro x member pre
      rcases mem_handled member with rfl | ⟨effect, among, rfl⟩ | rfl
      · trivial
      · intro report
        rw [quiet.deasserting m.own effect among] at report
        cases report
      · trivial
  · have idle : m.base.timerWait = none := by
      rcases alone with idle | rearms
      · exact idle
      · have := rearms.2
        omega
    rw [result] at single ⊢
    refine ⟨single, fun pending => ?_, ?_⟩
    · simp [TimerPending, waitForEvent, idle, timerReady] at pending
    · rw [← List.append_assoc]
      apply justified_append _ _ _ before
      -- every event of the report comes after the window was opened, and opens none
      intro pre x post split
      cases x with
      | own effect =>
        intro _
        apply window _ pre (opened saw)
        intro y member
        have inside : y ∈ .base (.assertHandler (m.base.clock + w.poll.delay) m.base.timeoutMs) ::
            ((o.assertHandler w.peci m.own).2.map DerivedEvent.own ++ [.base .waitForEvent]) := by
          rw [split]
          simp [member]
        rcases mem_handled inside with rfl | ⟨effect, _, rfl⟩ | rfl <;> rfl
      | startPolling level => trivial
      | base event => trivial
  · rw [result] at single ⊢
    refine ⟨single, fun _ => ?_, ?_⟩
    · rw [← List.append_assoc]
      exact window _ _ (opened saw) (by simp [isWindow])
    · rw [← List.append_assoc]
      exact justified_append_free _ _ _ before (by simp [ReportedIn])

theorem starts_windowReports {w : Surroundings} {m : DerivedMonitor σ} {tr : List (DerivedEvent ε)}
    (window : OfWindow W) (quiet : ReportsOnAssert o isReport)
    (alone : m.base.timerReady = 0 ∧
      (m.base.timerWait = none ∨ Rearms w.poll (restarted o cfg w m).base))
    (opens : Opens o cfg W w m) (justified : Justified (ReportedIn W isReport) tr)
    (single : continuations (startPolling o cfg w m).1.base = 1) :
    WindowReports W isReport ((startPolling o cfg w m).1, tr ++ (startPolling o cfg w m).2) := by
  have started : Justified (ReportedIn W isReport) (tr ++ starting o w m) := by
    apply justified_append_free _ _ _ justified
    intro x member pre
    rcases mem_starting member with rfl | ⟨effect, among, rfl⟩ | rfl | rfl
    · trivial
    · intro report
      rw [quiet.starting w.peci m.own effect among] at report
      cases report
    · trivial
    · trivial
  rw [startPolling_eq] at single ⊢
  rw [← List.append_assoc]
  exact poll_windowReports window quiet alone.1 alone.2 (fun saw => opens saw tr) started single

theorem windowReports_step {c c' : DerivedMonitor σ × List (DerivedEvent ε)} {i : DerivedInput}
    (window : OfWindow W) (quiet : ReportsOnAssert o isReport) (reporting : WindowReports W isReport c)
    (takesOver : OverridesTakeOver cfg c i)
    (opens : ∀ w m, i.starts c.1 = some (w, m) → Opens o cfg W w m)
    (next : (derivedMachine o cfg).next c i = some c') : WindowReports W isReport c' := by
  have single := derived_single_step reporting.single takesOver next
  obtain ⟨m', out, step, rfl⟩ := (derivedMachine o cfg).next_some.mp next
  rcases derived_step_cases step with ⟨j, base, events, rfl, inherited, answered, rfl, rfl⟩ |
    ⟨w, m, announced, started, hostOn, queued, rfl, rfl⟩ | ⟨w, rfl, queued, run⟩
  · obtain ⟨trace, _, _, kept⟩ := inherited_step inherited answered
    have windowless : ∀ x ∈ events.map (DerivedEvent.base (ε := ε)), isWindow x = false := by
      rcases trace with rfl | rfl <;> simp [isWindow]
    refine ⟨single, fun pending => window _ _ (reporting.timer (kept.mp pending)) windowless, ?_⟩
    apply justified_append_free _ _ _ reporting.justified
    intro x member pre
    obtain ⟨event, _, rfl⟩ := List.mem_map.mp member
    trivial
  · rw [← List.append_assoc]
    exact starts_windowReports window quiet (starts_alone reporting.single takesOver started queued)
      (opens w m started) (justified_announced (fun _ => trivial) hostOn reporting.justified) single
  · obtain ⟨idle, _, one⟩ := single_idle reporting.single (by omega)
    have opened := reporting.timer (Or.inr queued)
    have after := @poll_windowReports σ ε o cfg W isReport w
      { c.1 with base := { c.1.base with timerReady := c.1.base.timerReady - 1 } } c.2 window quiet
      (by simp only; omega) (Or.inl idle)
      (fun _ => window _ _ opened (seen_windowless w.poll _)) reporting.justified
    rw [run] at after
    exact after single

theorem windowReports_initial (l : ValidPollLine) (timeoutMs : Nat) (own : σ) (window : OfWindow W)
    (quiet : ReportsOnAssert o isReport)
    (opens : Opens o cfg W l.start ⟨BaseGPIOPollMonitor.construct l.setup timeoutMs l.clock l.line
      l.unread l.hostOff, own⟩) :
    WindowReports W isReport (l.initial o cfg timeoutMs own) := by
  have single : continuations (startPolling o cfg l.start ⟨BaseGPIOPollMonitor.construct l.setup
      timeoutMs l.clock l.line l.unread l.hostOff, own⟩).1.base = 1 := by
    rw [startPolling_eq]
    exact poll_continuations cfg l.start.poll _ (Or.inl rfl)
  rw [ValidPollLine.initial_eq]
  exact @starts_windowReports σ ε o cfg W isReport l.start _ [] window quiet ⟨rfl, Or.inl rfl⟩ opens
    (justified_nil _) single

end windows
end HostErrorMonitor.Guarantees
