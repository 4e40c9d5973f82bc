import HostErrorMonitor.Guarantees.DerivedPolling
import HostErrorMonitor.Guarantees.IerrLogging
import HostErrorMonitor.Source.ErrPinTimeoutMonitor

/-!
# The CPUs that a timeout of an ERR pin names

The monitor samples the CPUs in its `startPolling` and names them many timer
handlers later. The names are always those of the latest sample. That its window
began with the signal asserted is up to `hostOn`: a timer that it leaves pending
goes on, under the sample of a `startPolling` whose own poll saw no assertion.
-/
namespace HostErrorMonitor.Guarantees
open HostErrorMonitor.Source HostErrorMonitor.Source.DerivedMonitor Reactive
open HostErrorMonitor.Source.ErrPinTimeoutMonitor
open BaseGPIOPollMonitor (asserted sees seen)

variable {n : Nat} {lib : Libpeci} {errPin : Nat} {cfg : PollConfig}

def isCheck : DerivedEvent (ErrPinEffect n) → Bool
  | .own (.checkErrPinCPUs _) => true
  | _ => false

def isSample : DerivedEvent (ErrPinEffect n) → Bool
  | .base (.asserted _) => true
  | _ => false

def isLogEvent : ErrPinEffect n → Bool
  | .logEvent _ => true
  | _ => false

/-- The latest `startPolling` made a sample, which flagged these CPUs. -/
def Sampled (flagged : BitVec n) (tr : List (DerivedEvent (ErrPinEffect n))) : Prop :=
  (since isWindow tr).find? isCheck = some (.own (.checkErrPinCPUs flagged))

/-- The poll of the latest `startPolling` saw the signal asserted. -/
def OpenedAsserted (tr : List (DerivedEvent (ErrPinEffect n))) : Prop :=
  (since isWindow tr).find? isSample = some (.base (.asserted true))

instance (tr : List (DerivedEvent (ErrPinEffect n))) : Decidable (OpenedAsserted tr) :=
  inferInstanceAs (Decidable (_ = _))

/-- The latest `startPolling` was called with the signal asserted. -/
def CalledAsserted (tr : List (DerivedEvent (ErrPinEffect n))) : Prop :=
  latest isWindow tr = some (.startPolling true)

/-- The entries name exactly the flagged CPUs. -/
def Names (errPin : Nat) (flagged : BitVec n) (entries : List LogEntry) : Prop :=
  ∀ cpu, errPinTimeoutLogCpu errPin cpu ∈ entries ↔ flagged.getLsbD cpu = true

/-- The entries name the CPUs of the latest sample, and its window was opened by a
poll that saw the signal asserted. -/
def Blamed (errPin : Nat) (before : List (DerivedEvent (ErrPinEffect n))) :
    DerivedEvent (ErrPinEffect n) → Prop
  | .own (.logEvent entries) =>
    (∃ flagged, Sampled flagged before ∧ Names errPin flagged entries) ∧ OpenedAsserted before
  | _ => True

theorem errPinTimeoutLogCpu_inj {errPin i j : Nat}
    (same : errPinTimeoutLogCpu errPin i = errPinTimeoutLogCpu errPin j) : i = j := by
  have texts : ("ERR" ++ errPin.repr ++ " Timeout on CPU " ++ i.repr).toList =
      ("ERR" ++ errPin.repr ++ " Timeout on CPU " ++ j.repr).toList :=
    congrArg (fun entry => entry.msg.toList) same
  simp only [String.toList_append] at texts
  exact repr_toList_inj (List.append_cancel_left texts)

/-- The entry without a CPU names none. -/
theorem errPinTimeoutLog_ne (errPin cpu : Nat) :
    errPinTimeoutLogCpu errPin cpu ≠ errPinTimeoutLog errPin := by
  intro same
  have texts : ("ERR" ++ errPin.repr ++ " Timeout on CPU " ++ cpu.repr).toList =
      ("ERR" ++ errPin.repr ++ " Timeout").toList :=
    congrArg (fun entry => entry.msg.toList) same
  simp only [String.toList_append, List.append_assoc, List.append_cancel_left_eq] at texts
  have lengths := congrArg List.length texts
  simp at lengths

theorem logEvent_names (errPin : Nat) (flagged : BitVec n) :
    Names errPin flagged (logEvent errPin flagged) := by
  intro cpu
  have entries : logEvent errPin flagged =
      if flagged = 0#n then [errPinTimeoutLog errPin]
      else (flaggedCPUs flagged).map (errPinTimeoutLogCpu errPin) := logCPUs_eq flagged _ _
  rw [entries, ← mem_flaggedCPUs]
  split
  next clear =>
    have unflagged : cpu ∉ flaggedCPUs flagged := by simp [mem_flaggedCPUs, clear]
    simp [unflagged, errPinTimeoutLog_ne]
  next =>
    rw [List.mem_map]
    constructor
    · rintro ⟨i, member, same⟩
      exact errPinTimeoutLogCpu_inj same ▸ member
    · intro member
      exact ⟨cpu, member, rfl⟩

theorem sampled_append {flagged : BitVec n} {tr out : List (DerivedEvent (ErrPinEffect n))}
    (sampled : Sampled flagged tr) (windowless : ∀ x ∈ out, isWindow x = false) :
    Sampled flagged (tr ++ out) := by
  unfold Sampled at sampled ⊢
  rw [since_append_unmarked isWindow tr out windowless, List.find?_append, sampled, Option.some_or]

/-- The entries name the CPUs of the latest sample. -/
def NamesSample (errPin : Nat) (before : List (DerivedEvent (ErrPinEffect n))) :
    DerivedEvent (ErrPinEffect n) → Prop
  | .own (.logEvent entries) => ∃ flagged, Sampled flagged before ∧ Names errPin flagged entries
  | _ => True

/-- The bitset is that of the latest sample, and so are the names of every report. -/
structure Sampling (errPin : Nat)
    (c : DerivedMonitor (BitVec n) × List (DerivedEvent (ErrPinEffect n))) : Prop where
  sampled : Sampled c.1.own c.2
  justified : Justified (NamesSample errPin) c.2

/-- A poll keeps the bitset, and reports nothing but its `logEvent`. -/
theorem poll_reports (w : Surroundings) (m : DerivedMonitor (BitVec n)) :
    (poll (overrides n lib errPin) cfg w m).1.own = m.own ∧
      ∀ x ∈ (poll (overrides n lib errPin) cfg w m).2,
        isWindow x = false ∧ ∀ entries, x = .own (.logEvent entries) →
          entries = logEvent errPin m.own := by
  constructor
  · rcases DerivedMonitor.poll_cases (overrides n lib errPin) cfg w m with ⟨_, result⟩ |
      ⟨_, _, result⟩ | ⟨_, _, result⟩
    · rw [result]
      rfl
    · rw [result]
      rfl
    · rw [result]
  · intro x member
    rcases mem_poll member with ⟨event, rfl, _⟩ | ⟨effect, rfl, asserting | deasserting⟩
    · exact ⟨rfl, nofun⟩
    · refine ⟨rfl, fun entries same => ?_⟩
      rw [List.mem_singleton.mp asserting] at same
      cases same
      rfl
    · cases deasserting

theorem poll_sampling (w : Surroundings) (m : DerivedMonitor (BitVec n))
    (tr : List (DerivedEvent (ErrPinEffect n))) (sampling : Sampling errPin (m, tr)) :
    Sampling errPin ((poll (overrides n lib errPin) cfg w m).1,
      tr ++ (poll (overrides n lib errPin) cfg w m).2) := by
  obtain ⟨kept, events⟩ := @poll_reports n lib errPin cfg w m
  refine ⟨?_, justified_append _ _ _ sampling.justified ?_⟩
  · simp only [kept]
    exact sampled_append sampling.sampled fun x member => (events x member).1
  · intro pre x post split
    have inside : ∀ y ∈ pre, isWindow y = false := fun y member => (events y (by simp [split, member])).1
    have named := (events x (by simp [split])).2
    cases x with
    | own effect =>
      cases effect with
      | checkErrPinCPUs flagged => trivial
      | logEvent entries =>
        rw [named entries rfl]
        exact ⟨m.own, sampled_append sampling.sampled inside, logEvent_names errPin m.own⟩
    | startPolling level => trivial
    | base event => trivial

/-- What a `startPolling` leaves since its call: the sample comes first. -/
theorem starting_sample (w : Surroundings) (m : DerivedMonitor (BitVec n)) :
    ∃ rest, starting (overrides n lib errPin) w m =
      .startPolling (asserted m.base) ::
        .own (.checkErrPinCPUs (restarted (overrides n lib errPin) cfg w m).own) :: rest ∧
      ∀ x ∈ rest, isWindow x = false ∧ isSample x = false ∧ ∀ effect, x ≠ .own effect := by
  refine ⟨List.replicate w.edges (.base .edge) ++
    [.base (.startPolling (meanwhile w m.base).clock m.base.timeoutMs)], rfl, ?_⟩
  intro x member
  simp only [List.mem_append, List.mem_replicate, List.mem_singleton] at member
  rcases member with ⟨_, rfl⟩ | rfl <;> exact ⟨rfl, rfl, nofun⟩

theorem starts_sampling (w : Surroundings) (m : DerivedMonitor (BitVec n))
    (tr : List (DerivedEvent (ErrPinEffect n))) (justified : Justified (NamesSample errPin) tr) :
    Sampling errPin ((startPolling (overrides n lib errPin) cfg w m).1,
      tr ++ (startPolling (overrides n lib errPin) cfg w m).2) := by
  obtain ⟨rest, started, quiet⟩ := @starting_sample n lib errPin cfg w m
  have opened : Sampling errPin (restarted (overrides n lib errPin) cfg w m,
      tr ++ starting (overrides n lib errPin) w m) := by
    rw [started]
    refine ⟨?_, justified_append_free _ _ _ justified ?_⟩
    · show (since isWindow _).find? isCheck = _
      rw [since_append_marked isWindow tr _ _ rfl]
      · rfl
      · intro x member
        rcases List.mem_cons.mp member with rfl | later
        · rfl
        · exact (quiet x later).1
    · intro x member before
      rcases List.mem_cons.mp member with rfl | later
      · trivial
      · rcases List.mem_cons.mp later with rfl | later
        · trivial
        · cases x with
          | own effect => exact absurd rfl ((quiet _ later).2.2 effect)
          | startPolling level => trivial
          | base event => trivial
  rw [startPolling_eq, ← List.append_assoc]
  exact poll_sampling w _ _ opened

theorem sampling_step {c c' : DerivedMonitor (BitVec n) × List (DerivedEvent (ErrPinEffect n))}
    {i : DerivedInput} (sampling : Sampling errPin c)
    (next : (derivedMachine (overrides n lib errPin) cfg).next c i = some c') :
    Sampling errPin c' := by
  obtain ⟨m', out, step, rfl⟩ := (derivedMachine (overrides n lib errPin) cfg).next_some.mp next
  rcases derived_step_cases step with ⟨j, base, events, rfl, inherited, answered, rfl, rfl⟩ |
    ⟨w, m, announced, _, hostOn, _, rfl, rfl⟩ | ⟨w, rfl, _, run⟩
  · have trace := (inherited_step inherited answered).1
    refine ⟨sampled_append sampling.sampled ?_, justified_append_free _ _ _ sampling.justified ?_⟩
    · rcases trace with rfl | rfl <;> simp [isWindow]
    · rcases trace with rfl | rfl <;> simp [NamesSample]
  · rw [← List.append_assoc]
    exact starts_sampling w m _ (justified_announced (fun _ => trivial) hostOn sampling.justified)
  · have after := @poll_sampling n lib errPin cfg w
      { c.1 with base := { c.1.base with timerReady := c.1.base.timerReady - 1 } } c.2
      ⟨sampling.sampled, sampling.justified⟩
    rwa [run] at after

theorem sampling_initial (l : ValidPollLine) :
    Sampling errPin (ErrPinTimeoutMonitor.initial n lib errPin cfg l) := by
  unfold ErrPinTimeoutMonitor.initial
  rw [ValidPollLine.initial_eq]
  exact starts_sampling l.start _ [] (justified_nil _)

/-- Only `assertHandler` calls `logEvent`. -/
theorem logEvent_onAssert : ReportsOnAssert (overrides n lib errPin) isLogEvent where
  starting := by
    intro peci own effect member
    rw [List.mem_singleton.mp member]
    rfl
  deasserting := by
    intro own effect member
    cases member

theorem openedAsserted_ofWindow : OfWindow (OpenedAsserted (n := n)) := by
  intro tr out opened windowless
  unfold OpenedAsserted at opened ⊢
  rw [since_append_unmarked isWindow tr out windowless, List.find?_append, opened, Option.some_or]

theorem calledAsserted_ofWindow : OfWindow (CalledAsserted (n := n)) := by
  intro tr out called windowless
  unfold CalledAsserted at called ⊢
  rw [latest_append_unmarked isWindow tr out windowless, called]

/-- The first sample of the signal in a poll is the one it acts on. -/
theorem seen_sample (env : Interference) (s : BaseGPIOPollMonitor) :
    ((seen env s).map (DerivedEvent.base (ε := ErrPinEffect n))).find? isSample =
      some (.base (.asserted (sees env s))) := by
  have edges : ((List.replicate env.edgesBeforeRead PollEvent.edge).map
      (DerivedEvent.base (ε := ErrPinEffect n))).find? isSample = none := by
    rw [List.find?_eq_none]
    intro x member
    obtain ⟨event, replicated, rfl⟩ := List.mem_map.mp member
    rw [List.eq_of_mem_replicate replicated]
    exact Bool.false_ne_true
  unfold seen BaseGPIOPollMonitor.sampled
  rw [List.map_cons, List.map_append, List.find?_cons_of_neg (by simp [isSample]),
    List.find?_append, edges, Option.none_or, List.map_cons,
    List.find?_cons_of_pos (by simp [isSample])]

/-- The window of a `startPolling` whose poll sees the signal asserted. -/
theorem opens_asserted (w : Surroundings) (m : DerivedMonitor (BitVec n)) :
    Opens (overrides n lib errPin) cfg OpenedAsserted w m := by
  intro saw tr
  obtain ⟨rest, started, quiet⟩ := @starting_sample n lib errPin cfg w m
  have before : (since isWindow (tr ++ starting (overrides n lib errPin) w m)).find? isSample =
      none := by
    rw [started, since_append_marked isWindow tr _ _ rfl]
    · rw [List.find?_eq_none]
      intro x member
      rcases List.mem_cons.mp member with rfl | later
      · exact Bool.false_ne_true
      · rw [(quiet x later).2.1]
        exact Bool.false_ne_true
    · intro x member
      rcases List.mem_cons.mp member with rfl | later
      · rfl
      · exact (quiet x later).1
  unfold OpenedAsserted
  rw [since_append_unmarked isWindow _ _ (seen_windowless w.poll _), List.find?_append, before,
    Option.none_or, seen_sample, saw]

/-- The call of a `startPolling`, seen from its window. -/
theorem opens_called {w : Surroundings} {m : DerivedMonitor (BitVec n)}
    (steady : sees w.poll (meanwhile w m.base) = true → asserted m.base = true) :
    Opens (overrides n lib errPin) cfg CalledAsserted w m := by
  intro saw tr
  obtain ⟨rest, started, quiet⟩ := @starting_sample n lib errPin cfg w m
  have called : asserted m.base = true := steady (by rwa [BaseGPIOPollMonitor.sees_eq] at saw ⊢)
  rw [started, called, List.append_assoc, List.cons_append]
  apply latest_append_marked isWindow tr _ _ rfl
  intro x member
  rcases List.mem_append.mp member with start | seen
  · rcases List.mem_cons.mp start with rfl | later
    · rfl
    · exact (quiet x later).1
  · exact seen_windowless w.poll _ x seen

/-- The condition on a step for the moment of the sample: where the poll of a
`startPolling` sees the signal asserted, it is asserted when the sample is made. -/
def SampledSteadily (c : DerivedMonitor (BitVec n) × List (DerivedEvent (ErrPinEffect n)))
    (i : DerivedInput) : Prop :=
  match i.starts c.1 with
  | none => True
  | some (w, m) => sees w.poll (meanwhile w m.base) = true → asserted m.base = true

instance (c : DerivedMonitor (BitVec n) × List (DerivedEvent (ErrPinEffect n)))
    (i : DerivedInput) : Decidable (SampledSteadily c i) := by
  unfold SampledSteadily
  split
  · exact inferInstanceAs (Decidable True)
  · exact inferInstanceAs (Decidable (_ → _))

/-- The condition on the constructor, which calls `startPolling` too. -/
def StartsSteadily (l : ValidPollLine) : Prop :=
  let base := BaseGPIOPollMonitor.construct l.setup errPinTimeoutMs l.clock l.line l.unread l.hostOff
  sees l.start.poll (meanwhile l.start base) = true → asserted base = true

instance (l : ValidPollLine) : Decidable (StartsSteadily l) :=
  inferInstanceAs (Decidable (_ → _))

/-- A report of a window whose sample was made with the signal asserted. -/
def BlamedSteadily (errPin : Nat) (before : List (DerivedEvent (ErrPinEffect n)))
    (x : DerivedEvent (ErrPinEffect n)) : Prop :=
  Blamed errPin before x ∧ ReportedIn CalledAsserted isLogEvent before x

theorem blamed_of_parts {tr : List (DerivedEvent (ErrPinEffect n))}
    (names : Justified (NamesSample errPin) tr)
    (opened : Justified (ReportedIn OpenedAsserted isLogEvent) tr) :
    Justified (Blamed errPin) tr := by
  intro pre x post split
  have named := names pre x post split
  have window := opened pre x post split
  cases x with
  | own effect =>
    cases effect with
    | checkErrPinCPUs flagged => trivial
    | logEvent entries => exact ⟨named, window rfl⟩
  | startPolling level => trivial
  | base event => trivial

/-- Every timeout is blamed on the sample of its own window in a run in which each
`hostOn` takes the chain over. Where each `startPolling` also samples steadily,
that sample was made with the signal asserted. -/
theorem timeout_blamed (n : Nat) (lib : Libpeci) (errPin : Nat) (cfg : PollConfig)
    (l : ValidPollLine) (is : List DerivedInput)
    (takesOver : (derivedMachine (overrides n lib errPin) cfg).Along (OverridesTakeOver cfg)
      (ErrPinTimeoutMonitor.initial n lib errPin cfg l) is) :
    (derivedMachine (overrides n lib errPin) cfg).Always (fun c => Justified (Blamed errPin) c.2)
      (ErrPinTimeoutMonitor.initial n lib errPin cfg l) is ∧
    (StartsSteadily l → (derivedMachine (overrides n lib errPin) cfg).Along SampledSteadily
        (ErrPinTimeoutMonitor.initial n lib errPin cfg l) is →
      (derivedMachine (overrides n lib errPin) cfg).Always
        (fun c => Justified (BlamedSteadily errPin) c.2)
        (ErrPinTimeoutMonitor.initial n lib errPin cfg l) is) := by
  have named : (derivedMachine (overrides n lib errPin) cfg).Always (Sampling errPin)
      (ErrPinTimeoutMonitor.initial n lib errPin cfg l) is :=
    (derivedMachine (overrides n lib errPin) cfg).always_of_invariant
      (fun _ _ _ sampling _ next => sampling_step sampling next) (fun _ sampling => sampling)
      (sampling_initial l) ((derivedMachine (overrides n lib errPin) cfg).along_true _ is)
  have opened : (derivedMachine (overrides n lib errPin) cfg).Always
      (WindowReports OpenedAsserted isLogEvent) (ErrPinTimeoutMonitor.initial n lib errPin cfg l) is :=
    (derivedMachine (overrides n lib errPin) cfg).always_of_invariant
      (fun _ _ _ reporting ok next => windowReports_step openedAsserted_ofWindow logEvent_onAssert
        reporting ok (fun w m _ => opens_asserted w m) next)
      (fun _ reporting => reporting)
      (windowReports_initial l errPinTimeoutMs 0#n openedAsserted_ofWindow logEvent_onAssert
        (opens_asserted _ _)) takesOver
  have blamed : (derivedMachine (overrides n lib errPin) cfg).Always
      (fun c => Justified (Blamed errPin) c.2)
      (ErrPinTimeoutMonitor.initial n lib errPin cfg l) is := fun pre post c split reach =>
    blamed_of_parts (named pre post c split reach).justified (opened pre post c split reach).justified
  refine ⟨blamed, fun start steady => ?_⟩
  have both := ((derivedMachine (overrides n lib errPin) cfg).along_and is).mpr ⟨takesOver, steady⟩
  have called : (derivedMachine (overrides n lib errPin) cfg).Always
      (WindowReports CalledAsserted isLogEvent) (ErrPinTimeoutMonitor.initial n lib errPin cfg l) is := by
    refine (derivedMachine (overrides n lib errPin) cfg).always_of_invariant
      (fun c i _ reporting ok next => windowReports_step calledAsserted_ofWindow logEvent_onAssert
        reporting ok.1 (fun w m started => opens_called ?_) next)
      (fun _ reporting => reporting)
      (windowReports_initial l errPinTimeoutMs 0#n calledAsserted_ofWindow logEvent_onAssert
        (opens_called start)) both
    have steadily := ok.2
    unfold SampledSteadily at steadily
    rw [started] at steadily
    exact steadily
  intro pre post c split reach before x after at_x
  exact ⟨blamed pre post c split reach before x after at_x,
    (called pre post c split reach).justified before x after at_x⟩

/-- The CPU at the first address always shows ERR2. -/
def showsErr2 : Peci :=
  { mc4Unreadable libpeci with rdPCIConfigLocal := fun _ _ _ _ _ _ => ⟨.ccSuccess, 0x40, 1#32 <<< 2⟩ }

def undisturbed : Surroundings := ⟨showsErr2, 0, 0, ⟨0, 0, 0, 0⟩⟩

/-- The ERR pin is asserted when the monitor starts, with the host on. -/
def assertedErrPin : ValidPollLine where
  setup := assertedAtStart.setup
  valid := assertedAtStart.valid
  clock := 0
  line := true
  unread := 0
  hostOff := false
  start := undisturbed

def err2Config : PollConfig :=
  ErrPinTimeoutMonitor.config everySecond.intBits everySecond.intBits_ge

/-- A `hostOn` in the window opens a new one, which ends in a report. -/
def hostOnInWindow : List DerivedInput :=
  [.hostOn undisturbed, .inherited (.tick 1000000000), .inherited .timerExpires,
    .timerHandler undisturbed, .inherited (.tick 90000000000), .inherited .timerExpires,
    .timerHandler undisturbed]

theorem timeout_blamed_after_hostOn :
    ((derivedMachine (overrides 8 libpeci 2) err2Config).exec
      (ErrPinTimeoutMonitor.initial 8 libpeci 2 err2Config assertedErrPin)
      hostOnInWindow).isSome = true ∧
    (derivedMachine (overrides 8 libpeci 2) err2Config).Always
      (fun c => Justified (BlamedSteadily 2) c.2)
      (ErrPinTimeoutMonitor.initial 8 libpeci 2 err2Config assertedErrPin) hostOnInWindow :=
  ⟨by decide, (timeout_blamed 8 libpeci 2 err2Config assertedErrPin hostOnInWindow (by decide)).2
    (by decide) (by decide)⟩

/-- The sample is made with the pin deasserted, in a `hostOn`; the timer that it
leaves pending reports a timeout and names the CPU of that sample. -/
theorem timeout_blamed_on_old_sample : ∃ c,
    (derivedMachine (overrides 8 libpeci 2) err2Config).exec
      (ErrPinTimeoutMonitor.initial 8 libpeci 2 err2Config assertedErrPin)
      [.inherited .edge, .hostOn undisturbed, .inherited (.tick 1000000000),
        .inherited .timerExpires, .inherited .edge, .timerHandler undisturbed,
        .inherited (.tick 90000000000), .inherited .timerExpires, .timerHandler undisturbed] =
      some c ∧ ¬ Justified (Blamed 2) c.2 := by
  refine ⟨_, rfl, fun justified => ?_⟩
  obtain ⟨_, opened⟩ := justified
    [.startPolling true, .own (.checkErrPinCPUs 1#8), .base (.startPolling 0 90000),
      .base .flushEvents, .base (.asserted true), .base (.armTimer 1000000000), .base .edge,
      .base .hostOn, .startPolling false, .own (.checkErrPinCPUs 1#8),
      .base (.startPolling 0 90000), .base .flushEvents, .base (.asserted false),
      .base .deassertHandler, .base .waitForEvent, .base .edge, .base .flushEvents,
      .base (.asserted true), .base (.armTimer 2000000000), .base .flushEvents,
      .base (.asserted true), .base (.assertHandler 91000000000 90000)]
    (.own (.logEvent [errPinTimeoutLogCpu 2 0])) [.base .waitForEvent] rfl
  exact absurd opened (by decide)

end HostErrorMonitor.Guarantees
