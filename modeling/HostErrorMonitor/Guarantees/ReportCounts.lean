import HostErrorMonitor.Guarantees.DerivedPolling
import HostErrorMonitor.Guarantees.ErrorCount
import HostErrorMonitor.Guarantees.IerrAttribution
import HostErrorMonitor.Guarantees.TimeoutWrites
import HostErrorMonitor.Spec.ErrorCounting

/-!
# Error counts and the reports of IERR

A report counts each CPU that its scan finds at fault once, so the count of a CPU
stays between its first value and that value with the reports that found it at
fault, whatever the calls meet on their way (`counts_within_reports`). Where each
report finds the counts of the one before complete, none is lost
(`counts_equal_reports`).
-/
namespace HostErrorMonitor.Guarantees
open HostErrorMonitor.Source HostErrorMonitor.Spec HostErrorMonitor.Source.DerivedMonitor Reactive

variable {lib : Libpeci} {cfg : PollConfig}

theorem charge_count (effects : List IerrEffect) (cpu : Nat) :
    (effects.filterMap charge).count cpu = effects.count (.incrementCPUErrorCount cpu) := by
  induction effects with
  | nil => rfl
  | cons effect effects ih =>
    cases effect with
    | incrementCPUErrorCount other => simp [charge, List.count_cons, ih]
    | logMessage entry =>
      have other : IerrEffect.logMessage entry ≠ .incrementCPUErrorCount cpu := nofun
      rw [List.filterMap_cons_none rfl, ih, List.count_cons_of_ne other]

/-- The addresses that are scanned have a CPU number from zero on. -/
def FoundAtFault (lib : Libpeci) (peci : Peci) (cpu : Nat) : Prop :=
  lib.minClientAddr + cpu ≤ lib.maxClientAddr ∧ atFault lib peci (lib.minClientAddr + cpu) = true

instance (lib : Libpeci) (peci : Peci) (cpu : Nat) : Decidable (FoundAtFault lib peci cpu) :=
  inferInstanceAs (Decidable (_ ∧ _))

/-- A report counts the CPUs that its scan finds at fault, each once. -/
theorem report_charges (lib : Libpeci) (peci : Peci) (cpu : Nat) :
    (charges (.own (.logEvent (ierrLogEvent lib peci)))).count cpu =
      if FoundAtFault lib peci cpu then 1 else 0 := by
  have scanned : (ierrLogEvent lib peci).count (.incrementCPUErrorCount cpu) =
      (checkIERRCPUs lib peci).effects.count (.incrementCPUErrorCount cpu) := by
    unfold ierrLogEvent
    simp only
    split
    · simp
    · rfl
  obtain ⟨_, counted, no_other⟩ := countsFaults_checkIERRCPUs lib peci
  rw [charges, charge_count, scanned]
  by_cases found : FoundAtFault lib peci cpu
  · have own := counted (lib.minClientAddr + cpu) (Nat.le_add_right _ _) found.1
    rw [Nat.add_sub_cancel_left, if_pos found.2] at own
    rw [own, if_pos found]
  · rw [if_neg found, List.count_eq_zero]
    exact fun member => found (no_other cpu member)

/-- What a step leaves holds at most one report, and nothing else that counts. -/
def ReportsOnce (lib : Libpeci) (out : List (DerivedEvent IERREffect)) : Prop :=
  (∀ x ∈ out, charges x = []) ∨ ∃ peci before after,
    out = before ++ .own (.logEvent (ierrLogEvent lib peci)) :: after ∧
      ∀ x ∈ before ++ after, charges x = []

theorem reportsOnce_append {before out : List (DerivedEvent IERREffect)}
    (silent : ∀ x ∈ before, charges x = []) (once : ReportsOnce lib out) :
    ReportsOnce lib (before ++ out) := by
  rcases once with none | ⟨peci, first, after, rfl, others⟩
  · refine Or.inl fun x member => ?_
    rcases List.mem_append.mp member with early | late
    · exact silent x early
    · exact none x late
  · refine Or.inr ⟨peci, before ++ first, after, by simp, fun x member => ?_⟩
    rw [List.append_assoc] at member
    rcases List.mem_append.mp member with early | late
    · exact silent x early
    · exact others x late

theorem poll_reportsOnce (w : Surroundings) (m : DerivedMonitor IERRMonitor) :
    ReportsOnce lib (poll (IERRMonitor.overrides lib) cfg w m).2 := by
  have silent : ∀ x ∈ (BaseGPIOPollMonitor.seen w.poll m.base).map DerivedEvent.base,
      charges x = [] := by
    intro x member
    rcases mem_seen_base member with rfl | rfl | rfl <;> rfl
  rcases poll_cases (IERRMonitor.overrides lib) cfg w m with ⟨_, result⟩ | ⟨_, _, result⟩ |
    ⟨_, _, result⟩
  · rw [result]
    exact reportsOnce_append silent (Or.inl (by simp [IERRMonitor.overrides, IERRMonitor.deassertHandler, charges]))
  · rw [result]
    refine reportsOnce_append silent (Or.inr ⟨w.peci,
      [.base (.assertHandler (m.base.clock + w.poll.delay) m.base.timeoutMs)],
      [.own (.beep IERRMonitor.beepCPUIERR), .own (.getErrConfig "ResetOnIERR"),
        .base .waitForEvent], rfl, ?_⟩)
    simp [charges]
  · rw [result]
    exact reportsOnce_append silent (Or.inl (by simp [charges]))

theorem startPolling_reportsOnce (w : Surroundings) (m : DerivedMonitor IERRMonitor) :
    ReportsOnce lib (startPolling (IERRMonitor.overrides lib) cfg w m).2 := by
  rw [startPolling_eq]
  refine reportsOnce_append (fun x member => ?_) (poll_reportsOnce w _)
  rcases mem_starting member with rfl | ⟨effect, none, _⟩ | rfl | rfl
  · rfl
  · cases none
  · rfl
  · rfl

theorem ierr_reportsOnce {m m' : DerivedMonitor IERRMonitor} {i : IERRInput}
    {out : List (DerivedEvent IERREffect)} (step : (ierrMachine lib cfg).step m i = some (m', out)) :
    ReportsOnce lib out := by
  rcases ierr_step_cases step with ⟨j, _, _, step⟩ | ⟨_, _, _, _, rfl⟩ | ⟨_, _, _, _, rfl⟩
  · rcases derived_step_cases step with ⟨j, base, events, rfl, _, _, rfl, rfl⟩ |
      ⟨w, m₁, announced, _, hostOn, _, rfl, rfl⟩ | ⟨w, rfl, _, run⟩
    · refine Or.inl fun x member => ?_
      obtain ⟨event, _, rfl⟩ := List.mem_map.mp member
      rfl
    · refine reportsOnce_append (fun x member => ?_) (startPolling_reportsOnce w m₁)
      rw [hostOn x member]
      rfl
    · have once := @poll_reportsOnce lib cfg w
        { m with base := { m.base with timerReady := m.base.timerReady - 1 } }
      rwa [run] at once
  · exact Or.inl (by simp [charges])
  · exact Or.inl (by simp [charges])

theorem ierr_initial_reportsOnce (l : ValidPollLine) (signalName customName : String) :
    ReportsOnce lib (IERRMonitor.initial lib cfg l signalName customName).2 := by
  unfold IERRMonitor.initial
  rw [ValidPollLine.initial_eq]
  exact startPolling_reportsOnce _ _

/-- A report that counts the CPU. -/
def countsCpu (cpu : Nat) (x : DerivedEvent IERREffect) : Bool := decide (cpu ∈ charges x)

/-- An event counts no CPU, or it is a report and counts those at fault. -/
def CountsFaulty (lib : Libpeci) (x : DerivedEvent IERREffect) : Prop :=
  charges x = [] ∨ ∃ peci, x = .own (.logEvent (ierrLogEvent lib peci))

theorem reportsOnce_countsFaulty {out : List (DerivedEvent IERREffect)} (once : ReportsOnce lib out) :
    ∀ x ∈ out, CountsFaulty lib x := by
  intro x member
  rcases once with none | ⟨peci, before, after, rfl, others⟩
  · exact Or.inl (none x member)
  · rcases List.mem_append.mp member with early | late
    · exact Or.inl (others x (List.mem_append_left _ early))
    · rcases List.mem_cons.mp late with rfl | late
      · exact Or.inr ⟨peci, rfl⟩
      · exact Or.inl (others x (List.mem_append_right _ late))

theorem count_charges {x : DerivedEvent IERREffect} (faulty : CountsFaulty lib x) (cpu : Nat) :
    (charges x).count cpu = if countsCpu cpu x then 1 else 0 := by
  unfold countsCpu
  rcases faulty with none | ⟨peci, rfl⟩
  · rw [none]
    rfl
  · have once := report_charges lib peci cpu
    by_cases counted : cpu ∈ charges (.own (.logEvent (ierrLogEvent lib peci)))
    · have some := List.count_pos_iff.mpr counted
      rw [once] at some ⊢
      split at some
      next found => simp [counted, found]
      · omega
    · rw [List.count_eq_zero_of_not_mem counted]
      simp [counted]

/-- The increments of a CPU that are sent are as many as the reports that count it. -/
theorem count_flatMap_charges {tr : List (DerivedEvent IERREffect)}
    (faulty : ∀ x ∈ tr, CountsFaulty lib x) (cpu : Nat) :
    (tr.flatMap charges).count cpu = tr.countP (countsCpu cpu) := by
  induction tr with
  | nil => rfl
  | cons x tr ih =>
    rw [List.flatMap_cons, List.count_append, count_charges (faulty x (by simp)),
      ih fun y member => faulty y (by simp [member]), List.countP_cons, Nat.add_comm]

/-- A step sends at most one increment of a CPU. -/
theorem countP_reportsOnce {out : List (DerivedEvent IERREffect)} (once : ReportsOnce lib out)
    (cpu : Nat) : out.countP (countsCpu cpu) ≤ 1 := by
  have silent : ∀ tr : List (DerivedEvent IERREffect), (∀ x ∈ tr, charges x = []) →
      tr.countP (countsCpu cpu) = 0 := by
    intro tr none
    rw [List.countP_eq_zero]
    intro x member
    simp [countsCpu, none x member]
  rcases once with none | ⟨peci, before, after, rfl, others⟩
  · rw [silent out none]
    exact Nat.zero_le _
  · rw [List.countP_append, List.countP_cons,
      silent before fun x member => others x (List.mem_append_left _ member),
      silent after fun x member => others x (List.mem_append_right _ member)]
    split <;> omega

/-- Increments that are sent together begin in each count as many as are its own. -/
theorem tally_sendIncrements (cpu begun : Nat) (s : SettingsSystem) (cpus : List Nat) :
    tally (errorCountProperty cpu) (begun + cpus.count cpu) (sendIncrements s cpus) =
      { tally (errorCountProperty cpu) begun s with
        begun := begun + cpus.count cpu
        unread := (tally (errorCountProperty cpu) begun s).unread + cpus.count cpu } := by
  have reads : (cpus.map incrementCPUErrorCount).count (.get (errorCountProperty cpu)) =
      cpus.count cpu := by
    induction cpus with
    | nil => rfl
    | cons other cpus ih =>
      rw [List.map_cons, List.count_cons, List.count_cons, ih]
      by_cases same : other = cpu
      · simp [incrementCPUErrorCount, same]
      · have different : errorCountProperty other ≠ errorCountProperty cpu :=
          fun h => same (errorCountProperty_inj h)
        simp [incrementCPUErrorCount, same, different]
  have unwritten : (cpus.map incrementCPUErrorCount).filterMap
      (targetFor (errorCountProperty cpu)) = [] := by
    rw [List.filterMap_eq_nil_iff]
    intro call member
    obtain ⟨other, _, rfl⟩ := List.mem_map.mp member
    rfl
  unfold tally sendIncrements upcoming
  ext1
  · rfl
  · rfl
  · rw [List.count_append, reads]
  · rw [List.filterMap_append, List.filterMap_append, List.filterMap_append, unwritten,
      List.append_nil]

/-- The service answers the call, if the input is one, without an error. -/
def answersWell : CountingInput → Bool
  | .handle ec => !ec.failed
  | _ => true

/-- The increments of one CPU that the reports so far began, with its count. -/
def reportTally (cpu : Nat) (c : ErrorCounting × List (DerivedEvent IERREffect)) : SharedCounter :=
  tally (errorCountProperty cpu) (c.2.countP (countsCpu cpu)) c.1.settings

/-- Only an increment begins one. -/
theorem counterEvent_begins {property : String} {s : SettingsSystem} {i : SettingsInput}
    (begun : counterEvent property s i = .begins) : ∃ cpu, i = .increment cpu := by
  cases i with
  | increment cpu => exact ⟨cpu, rfl⟩
  | handle ec =>
    simp only [counterEvent] at begun
    split at begun
    · cases begun
    · split at begun
      · split at begun <;> cases begun
      · cases begun
    · split at begun
      · split at begun <;> cases begun
      · cases begun
  | deliver position => cases begun

/-- A step of the system is one of each count: a report that counts the CPU begins an
increment, and any other step begins none. -/
theorem reportTally_step {c c' : ErrorCounting × List (DerivedEvent IERREffect)} {i : CountingInput}
    (cpu : Nat) (next : (errorCounting lib cfg).next c i = some c') :
    ∃ e, (reportTally cpu c).step 255 e = some (reportTally cpu c') ∧
      (e = .begins → ∃ s out, (errorCounting lib cfg).step c.1 i = some (s, out) ∧
        out.any (countsCpu cpu) = true) ∧
      (answersWell i = true → SharedCounter.Succeeds e) := by
  obtain ⟨s, out, step, rfl⟩ := (errorCounting lib cfg).next_some.mp next
  rcases counting_step_cases step with ⟨j, rfl, own, sent⟩ | ⟨j, settings, calls, inputs, moved, rfl, rfl⟩
  · have once := ierr_reportsOnce own
    have counted := count_flatMap_charges (reportsOnce_countsFaulty once) cpu
    have few := countP_reportsOnce once cpu
    have sum := tally_sendIncrements cpu (c.2.countP (countsCpu cpu)) c.1.settings
      (out.flatMap charges)
    rw [← sent, counted] at sum
    have reached : reportTally cpu (s, c.2 ++ out) = { reportTally cpu c with
        begun := c.2.countP (countsCpu cpu) + out.countP (countsCpu cpu)
        unread := (reportTally cpu c).unread + out.countP (countsCpu cpu) } := by
      unfold reportTally
      rw [List.countP_append]
      exact sum
    by_cases counts : out.any (countsCpu cpu) = true
    · have one : out.countP (countsCpu cpu) = 1 := by
        have some := List.countP_pos_iff.mpr (List.any_eq_true.mp counts)
        omega
      refine ⟨.begins, ?_, fun _ => ⟨s, out, step, counts⟩, fun _ => by simp [SharedCounter.Succeeds]⟩
      rw [reached, one]
      rfl
    · have none : out.countP (countsCpu cpu) = 0 := by
        rw [List.countP_eq_zero]
        exact fun x member counted => counts (List.any_eq_true.mpr ⟨x, member, counted⟩)
      refine ⟨.idles, ?_, ?_, fun _ => by simp [SharedCounter.Succeeds]⟩
      · rw [reached, none]
        rfl
      · intro begun
        cases begun
  · have moved := tally_step (errorCountProperty cpu) (c.2.countP (countsCpu cpu)) moved
    have unbegun : begins (errorCountProperty cpu) j = 0 := by
      rcases inputs with ⟨ec, _, rfl⟩ | ⟨position, _, rfl⟩ <;> rfl
    rw [unbegun, Nat.add_zero] at moved
    refine ⟨counterEvent (errorCountProperty cpu) c.1.settings j, ?_, fun begun => ?_,
      fun well => succeeds_of_handlesWell ?_⟩
    · unfold reportTally
      rw [List.append_nil]
      exact moved
    · obtain ⟨other, rfl⟩ := counterEvent_begins begun
      rcases inputs with ⟨_, _, same⟩ | ⟨_, _, same⟩ <;> cases same
    · rcases inputs with ⟨ec, rfl, rfl⟩ | ⟨position, _, rfl⟩
      · exact well
      · rfl

/-- At first each count stands at its value, and a report of the constructor may begin
an increment. -/
theorem reportTally_initial (l : ValidPollLine) (signalName customName : String)
    (counts : String → BitVec 8) (cpu : Nat) :
    ∃ e, (⟨(counts (errorCountProperty cpu)).toNat, 0, 0, 0⟩ : SharedCounter).step 255 e =
      some (reportTally cpu (ErrorCounting.initial lib cfg l signalName customName counts)) ∧
      SharedCounter.Succeeds e := by
  generalize built : IERRMonitor.initial lib cfg l signalName customName = start
  have once : ReportsOnce lib start.2 := by
    rw [← built]
    exact ierr_initial_reportsOnce l signalName customName
  have counted := count_flatMap_charges (reportsOnce_countsFaulty once) cpu
  have few := countP_reportsOnce once cpu
  have sum := tally_sendIncrements cpu 0 (.initial counts) (start.2.flatMap charges)
  rw [counted, Nat.zero_add] at sum
  have reached : reportTally cpu (ErrorCounting.initial lib cfg l signalName customName counts) =
      ⟨(counts (errorCountProperty cpu)).toNat, start.2.countP (countsCpu cpu),
        start.2.countP (countsCpu cpu), 0⟩ := by
    unfold reportTally ErrorCounting.initial
    rw [built]
    refine sum.trans ?_
    simp [tally, SettingsSystem.initial, upcoming]
  rcases Nat.le_one_iff_eq_zero_or_eq_one.mp few with none | one
  · exact ⟨.idles, by rw [reached, none]; rfl, by simp [SharedCounter.Succeeds]⟩
  · exact ⟨.begins, by rw [reached, one]; rfl, by simp [SharedCounter.Succeeds]⟩

/-- Every event of a run counts no CPU, or is a report that counts those at fault. -/
theorem countsFaulty_of_run {l : ValidPollLine} {signalName customName : String}
    {counts : String → BitVec 8} {is : List CountingInput}
    {c : ErrorCounting × List (DerivedEvent IERREffect)}
    (run : (errorCounting lib cfg).exec
      (ErrorCounting.initial lib cfg l signalName customName counts) is = some c) :
    ∀ x ∈ c.2, CountsFaulty lib x := by
  refine (errorCounting lib cfg).invariant (I := fun c => ∀ x ∈ c.2, CountsFaulty lib x)
    (fun c i c' before _ next => ?_) ?_ ((errorCounting lib cfg).along_true _ is) run
  · obtain ⟨s, out, step, rfl⟩ := (errorCounting lib cfg).next_some.mp next
    intro x member
    rcases List.mem_append.mp member with old | new
    · exact before x old
    · rcases counting_step_cases step with ⟨j, rfl, own, _⟩ | ⟨_, _, _, _, _, _, rfl⟩
      · exact reportsOnce_countsFaulty (ierr_reportsOnce own) x new
      · cases new
  · exact reportsOnce_countsFaulty (ierr_initial_reportsOnce l signalName customName)

/-- In every state of every run, whatever calls fail and in whatever order the replies
are delivered, each count is at least its first value, and at most that and the
reports that count its CPU; these are the reports whose scan finds it at fault. -/
theorem counts_within_reports (lib : Libpeci) (cfg : PollConfig) (l : ValidPollLine)
    (signalName customName : String) (counts : String → BitVec 8) (is : List CountingInput) :
    (errorCounting lib cfg).Always (fun c => ∀ cpu,
      ((counts (errorCountProperty cpu)).toNat ≤
          (c.1.settings.counts (errorCountProperty cpu)).toNat ∧
        (c.1.settings.counts (errorCountProperty cpu)).toNat ≤
          (counts (errorCountProperty cpu)).toNat + c.2.countP (countsCpu cpu)) ∧
      ∀ x ∈ c.2, countsCpu cpu x = true ↔
        ∃ peci, x = .own (.logEvent (ierrLogEvent lib peci)) ∧ FoundAtFault lib peci cpu)
      (ErrorCounting.initial lib cfg l signalName customName counts) is := by
  intro pre post c _ run cpu
  constructor
  · have both : SharedCounter.Within (counts (errorCountProperty cpu)).toNat 0 (reportTally cpu c) ∧
        SharedCounter.Above (counts (errorCountProperty cpu)).toNat (reportTally cpu c) := by
      refine (errorCounting lib cfg).invariant
        (I := fun c => SharedCounter.Within (counts (errorCountProperty cpu)).toNat 0
            (reportTally cpu c) ∧
          SharedCounter.Above (counts (errorCountProperty cpu)).toNat (reportTally cpu c))
        (fun c i c' before _ next => ?_) ?_ ((errorCounting lib cfg).along_true _ pre) run
      · obtain ⟨e, moved, _⟩ := reportTally_step cpu next
        exact ⟨SharedCounter.within_step before.1 moved, SharedCounter.above_step before.2 moved⟩
      · obtain ⟨e, moved, _⟩ := @reportTally_initial lib cfg l signalName customName counts cpu
        exact ⟨SharedCounter.within_step (SharedCounter.within_initial _) moved,
          SharedCounter.above_step (SharedCounter.above_initial _) moved⟩
    have upper := both.1.stored
    have lower := both.2.stored
    simp only [reportTally, tally] at upper lower
    omega
  · intro x member
    rcases countsFaulty_of_run run x member with none | ⟨peci, rfl⟩
    · constructor
      · intro counted
        simp [countsCpu, none] at counted
      · rintro ⟨peci, rfl, found⟩
        have once := report_charges lib peci cpu
        rw [none, if_pos found] at once
        cases once
    · have counted : ∀ peci, countsCpu cpu (.own (.logEvent (ierrLogEvent lib peci))) = true ↔
          FoundAtFault lib peci cpu := by
        intro peci
        have once := report_charges lib peci cpu
        rw [count_charges (Or.inr ⟨peci, rfl⟩)] at once
        by_cases found : FoundAtFault lib peci cpu
        · rw [if_pos found] at once
          exact ⟨fun _ => found, fun _ => by_contra fun other => by simp [other] at once⟩
        · rw [if_neg found] at once
          exact ⟨fun yes => by simp [yes] at once, fun yes => absurd yes found⟩
      constructor
      · exact fun yes => ⟨peci, rfl, (counted peci).mp yes⟩
      · rintro ⟨other, same, found⟩
        rw [same]
        exact (counted other).mpr found

/-- A report that counts the CPU comes when its earlier increments are complete. -/
def ReportsApart (lib : Libpeci) (cfg : PollConfig) (cpu : Nat)
    (c : ErrorCounting × List (DerivedEvent IERREffect)) (i : CountingInput) : Prop :=
  match (errorCounting lib cfg).step c.1 i with
  | none => True
  | some (_, out) => out.any (countsCpu cpu) = true →
      Completed (errorCountProperty cpu) c.1.settings

instance (lib : Libpeci) (cfg : PollConfig) (cpu : Nat)
    (c : ErrorCounting × List (DerivedEvent IERREffect)) (i : CountingInput) :
    Decidable (ReportsApart lib cfg cpu c i) := by
  unfold ReportsApart
  cases (errorCounting lib cfg).step c.1 i with
  | none => exact .isTrue trivial
  | some r => exact inferInstanceAs (Decidable (_ → _))

/-- Where no call fails and each report that counts a CPU finds its earlier increments
complete, the count of the CPU rises with each such report, up to 255, as soon as its
last increment is complete as well. -/
theorem counts_equal_reports (lib : Libpeci) (cfg : PollConfig) (l : ValidPollLine)
    (signalName customName : String) (counts : String → BitVec 8) (cpu : Nat)
    (is : List CountingInput) (c : ErrorCounting × List (DerivedEvent IERREffect))
    (run : (errorCounting lib cfg).exec
      (ErrorCounting.initial lib cfg l signalName customName counts) is = some c)
    (well : ∀ i ∈ is, answersWell i = true)
    (apart : (errorCounting lib cfg).Along (ReportsApart lib cfg cpu)
      (ErrorCounting.initial lib cfg l signalName customName counts) is)
    (completed : Completed (errorCountProperty cpu) c.1.settings) :
    (c.1.settings.counts (errorCountProperty cpu)).toNat =
      min 255 ((counts (errorCountProperty cpu)).toNat + c.2.countP (countsCpu cpu)) := by
  have bounded : (counts (errorCountProperty cpu)).toNat ≤ 255 := by
    have := (counts (errorCountProperty cpu)).isLt
    omega
  have succeeding : (errorCounting lib cfg).Along (fun _ i => answersWell i = true)
      (ErrorCounting.initial lib cfg l signalName customName counts) is := by
    apply (errorCounting lib cfg).along_of_steps
    intro pre i post _ split _
    exact well i (by simp [split])
  have exact : SharedCounter.Exact 255 (counts (errorCountProperty cpu)).toNat (reportTally cpu c) ∧
      SharedCounter.Single (reportTally cpu c) := by
    refine (errorCounting lib cfg).invariant
      (I := fun c => SharedCounter.Exact 255 (counts (errorCountProperty cpu)).toNat
          (reportTally cpu c) ∧ SharedCounter.Single (reportTally cpu c))
      (fun c i c' before ok next => ?_) ?_
      (((errorCounting lib cfg).along_and is).mpr ⟨apart, succeeding⟩) run
    · obtain ⟨e, moved, begins, succeeds⟩ := reportTally_step cpu next
      have alone : e = .begins → (reportTally cpu c).unread = 0 ∧ (reportTally cpu c).targets = 0 := by
        intro begun
        obtain ⟨s, out, step, counted⟩ := begins begun
        have reports := ok.1
        unfold ReportsApart at reports
        rw [step] at reports
        exact tally_completed (reports counted)
      obtain ⟨single, serial⟩ := SharedCounter.single_step before.2 alone moved
      exact ⟨SharedCounter.exact_step before.1 serial (succeeds ok.2) moved, single⟩
    · obtain ⟨e, moved, succeeds⟩ := @reportTally_initial lib cfg l signalName customName counts cpu
      have none : SharedCounter.Single ⟨(counts (errorCountProperty cpu)).toNat, 0, 0, 0⟩ :=
        Nat.zero_le _
      obtain ⟨single, serial⟩ := SharedCounter.single_step none (fun _ => ⟨rfl, rfl⟩) moved
      exact ⟨SharedCounter.exact_step (SharedCounter.exact_initial bounded) serial succeeds moved,
        single⟩
  obtain ⟨unread, targets⟩ := @tally_completed _ (c.2.countP (countsCpu cpu)) _ completed
  have below := exact.1.below
  have count := exact.1.count
  simp only [reportTally] at below count
  rw [unread, targets, Multiset.card_zero] at count
  simp only [tally] at below count
  omega

/-- CPU 0 alone is at fault. -/
def firstAtFault (lib : Libpeci) : Peci where
  getCPUID addr := if addr = lib.minClientAddr then (.ccSuccess, .skylake) else (.ccCpuNotPresent, .other 0)
  rdPkgConfig _ _ _ _ := ⟨.ccSuccess, lib.devCcSuccess, 1#32 <<< 20⟩
  rdIAMSR _ _ _ := ⟨.ccSuccess, lib.devCcSuccess, 0⟩
  rdPCIConfigLocal _ _ _ _ _ _ := ⟨.ccSuccess, lib.devCcSuccess, 0⟩
  rdEndPointConfigPciLocal _ _ _ _ _ _ _ := ⟨.ccSuccess, lib.devCcSuccess, 0⟩

def faulty : Surroundings := ⟨firstAtFault libpeci, 0, 0, ⟨0, 0, 0, 0⟩⟩

/-- One report, and the three messages of its increment. -/
def reportedOnce : List CountingInput :=
  [.ierr (.monitor (.inherited (.tick 3000000000))), .ierr (.monitor (.inherited .timerExpires)),
    .ierr (.monitor (.timerHandler faulty)), .handle ⟨0⟩, .deliver 0, .handle ⟨0⟩]

theorem counts_equal_reports_once : ∃ c,
    (errorCounting libpeci ierrConfig).exec
      (ErrorCounting.initial libpeci ierrConfig assertedIerr "CPU_CATERR" "IERR" fun _ => 3#8)
      reportedOnce = some c ∧
    (c.1.settings.counts (errorCountProperty 0)).toNat = min 255 (3 + c.2.countP (countsCpu 0)) :=
  ⟨_, rfl, counts_equal_reports libpeci ierrConfig assertedIerr "CPU_CATERR" "IERR" (fun _ => 3#8) 0
    reportedOnce _ rfl (by decide) (by decide) (by decide)⟩

end HostErrorMonitor.Guarantees
