import HostErrorMonitor.Guarantees.PollingClasses
import HostErrorMonitor.Reactive.Replica
import HostErrorMonitor.Spec.HostService

/-!
# How the process follows its host

The recorded host state is a replica of the service's. `main` matches the signals
before it asks, so no change goes untold once a state was sent, and the replica is
faithful: what is recorded settles on the state of the host, and a reply that arrives
after a signal tells nothing new. So where there is one host only, a Get reply never
turns it on once the monitors are started, and their watch has no gap.
-/
namespace HostErrorMonitor.Guarantees
open HostErrorMonitor.Source HostErrorMonitor.Spec Reactive

/-- What a message of the service says of the host being off. -/
def offMessage : HostInput → ReplicaMessage Bool
  | .signal state => .announcement (state == hostStateOff)
  | .reply ec property => if ec.failed then .failure else .answer (property == hostStateOff)

theorem offMessage_value (message : HostInput) :
    (offMessage message).value = (reported message).map (· == hostStateOff) := by
  cases message with
  | signal state => rfl
  | reply ec property =>
    simp only [offMessage, reported]
    split <;> rfl

/-- What is recorded of the host being off, once anything is. -/
def recordedOff (host : HostState) : Option Bool :=
  if host.initialized then some (hostIsOff host) else none

theorem recordedOff_isSome (host : HostState) : (recordedOff host).isSome = host.initialized := by
  unfold recordedOff
  cases host.initialized <;> rfl

theorem recordedOff_step {s s' : HostState} {i : HostInput} {out : List HostEffect}
    (step : hostMachine.step s i = some (s', out)) :
    recordedOff s' = (offMessage i).value.or (recordedOff s) := by
  rw [offMessage_value]
  rcases host_step_cases step with ⟨ec, property, rfl, failed, rfl, _⟩ |
    ⟨ec, property, rfl, ok, rfl, _⟩ | ⟨state, rfl, rfl, _⟩
  · simp [reported, failed]
  · simp [reported, ok, recordedOff, hostIsOff]
  · simp [reported, recordedOff, hostIsOff]

section tracking
variable {κ : Type} {ms : Monitors κ}

def offReplica (s : HostTracking ms) : Replica Bool where
  current := s.currentHostState == hostStateOff
  inTransit := s.inTransit.map offMessage
  held := recordedOff s.process.host

/-- The service sends a state. -/
def sendsState : TrackingEvent ms → Bool
  | .sent message => (reported message).isSome
  | .process _ => false

theorem process_sends_nothing (events : List (ProcessEvent ms)) :
    (events.map TrackingEvent.process).any sendsState = false := by
  rw [List.any_map, List.any_eq_false]
  intro event _
  exact Bool.false_ne_true

/-- Nothing is sent before the match is in place, and nothing is asked before that. -/
structure Starting (c : HostTracking ms × List (TrackingEvent ms)) : Prop where
  unsent : c.1.stage = .connected → c.2.any sendsState = false
  asked : c.1.asked = true → c.1.stage = .running

/-- The recorded host state is a faithful replica, which holds or is about to hold a
value exactly when the service has sent a state. -/
structure Tracked (c : HostTracking ms × List (TrackingEvent ms)) : Prop extends Starting c where
  faithful : (offReplica c.1).Faithful
  sent : (offReplica c.1).latest.isSome = c.2.any sendsState

theorem tracked_initial (state : String) : Tracked (HostTracking.initial ms state, []) where
  unsent _ := rfl
  asked none := by cases none
  faithful := ⟨fun _ none => (by cases none), trivial⟩
  sent := rfl

/-- A reply that is delivered once a state is recorded says what is recorded. -/
theorem reply_repeats {c : HostTracking ms × List (TrackingEvent ms)} (tracked : Tracked c)
    {ec : ErrorCode} {property : String} {rest : List HostInput}
    (oldest : c.1.inTransit = .reply ec property :: rest) (ok : ec.failed = false)
    (started : c.1.process.host.initialized = true) :
    hostIsOff c.1.process.host = (property == hostStateOff) := by
  have holds : (offReplica c.1).held = some (hostIsOff c.1.process.host) := if_pos started
  have answer : (offReplica c.1).inTransit =
      .answer (property == hostStateOff) :: rest.map offMessage := by
    simp only [offReplica, oldest, List.map_cons, offMessage, ok]
    rfl
  exact Replica.answer_repeats tracked.faithful answer holds

variable [DecidableEq κ]

/-- A step of the two is one of the replica; a change is unannounced only before the
match is in place. -/
theorem offReplica_step {s s' : HostTracking ms} {i : TrackingInput ms}
    {out : List (TrackingEvent ms)} (step : (hostTracking ms).step s i = some (s', out)) :
    ∃ e, (offReplica s).step e = some (offReplica s') ∧ e.sends = out.any sendsState ∧
      ∀ value, e = .changes value → s.stage = .connected := by
  rcases tracking_step_cases step with ⟨_, _, rfl, rfl⟩ | ⟨_, _, rfl, rfl⟩ |
    ⟨state, _, stage, rfl, rfl⟩ | ⟨state, _, _, rfl, rfl⟩ | ⟨ec, _, _, rfl, rfl⟩ |
    ⟨meets, message, rest, process, events, _, _, oldest, delivered, rfl, rfl⟩ |
    ⟨k, j, process, events, _, moved, rfl, rfl⟩
  · exact ⟨.idles, rfl, rfl, fun _ same => by cases same⟩
  · exact ⟨.idles, rfl, rfl, fun _ same => by cases same⟩
  · exact ⟨.changes (state == hostStateOff), rfl, rfl, fun _ _ => stage⟩
  · refine ⟨.announces (state == hostStateOff), ?_, rfl, fun _ same => by cases same⟩
    simp [offReplica, Replica.step, offMessage]
  · cases failed : ec.failed with
    | true =>
      refine ⟨.fails, ?_, ?_, fun _ same => by cases same⟩
      · simp [offReplica, Replica.step, offMessage, failed]
      · simp [sendsState, reported, failed, ReplicaEvent.sends]
    | false =>
      refine ⟨.answers, ?_, ?_, fun _ same => by cases same⟩
      · simp [offReplica, Replica.step, offMessage, failed]
      · simp [sendsState, reported, failed, ReplicaEvent.sends]
  · refine ⟨.receives, ?_, (process_sends_nothing events).symm, fun _ same => by cases same⟩
    rcases process_step_host delivered with ⟨j, meets', same, handled⟩ | ⟨k, j, same, _⟩
    · cases same
      simp only [Replica.step, offReplica, oldest, List.map_cons, recordedOff_step handled]
    · cases same
  · refine ⟨.idles, ?_, (process_sends_nothing events).symm, fun _ same => by cases same⟩
    rcases process_step_host moved with ⟨_, _, same, _⟩ | ⟨_, _, _, same, _⟩
    · cases same
    · simp only [Replica.step, offReplica, same]

theorem starting_step {c c' : HostTracking ms × List (TrackingEvent ms)} {i : TrackingInput ms}
    (starting : Starting c) (next : (hostTracking ms).next c i = some c') : Starting c' := by
  obtain ⟨s, out, step, rfl⟩ := (hostTracking ms).next_some.mp next
  obtain ⟨unsent, asks⟩ := starting
  have quiet : ∀ events : List (ProcessEvent ms),
      (c.2 ++ events.map TrackingEvent.process).any sendsState = c.2.any sendsState := by
    intro events
    rw [List.any_append, process_sends_nothing, Bool.or_false]
  rcases tracking_step_cases step with ⟨_, stage, rfl, rfl⟩ | ⟨_, _, rfl, rfl⟩ |
    ⟨state, _, stage, rfl, rfl⟩ | ⟨state, _, started, rfl, rfl⟩ | ⟨ec, _, asked, rfl, rfl⟩ |
    ⟨meets, message, rest, process, events, _, _, _, _, rfl, rfl⟩ |
    ⟨k, j, process, events, _, _, rfl, rfl⟩
  · refine ⟨fun same => ?_, fun asked => ?_⟩
    · cases same
    · have running := asks asked
      rw [stage] at running
      cases running
  · refine ⟨fun same => ?_, fun _ => rfl⟩
    cases same
  · refine ⟨fun _ => ?_, asks⟩
    rw [List.append_nil]
    exact unsent stage
  · exact ⟨fun same => absurd same started, asks⟩
  · refine ⟨fun same => ?_, fun same => by cases same⟩
    have running := asks asked
    rw [show c.1.stage = .connected from same] at running
    cases running
  · exact ⟨fun same => (quiet events).trans (unsent same), asks⟩
  · exact ⟨fun same => (quiet events).trans (unsent same), asks⟩

theorem tracked_step {c c' : HostTracking ms × List (TrackingEvent ms)} {i : TrackingInput ms}
    (before : Tracked c) (next : (hostTracking ms).next c i = some c') : Tracked c' := by
  have starting := starting_step before.toStarting next
  obtain ⟨s, out, step, rfl⟩ := (hostTracking ms).next_some.mp next
  obtain ⟨e, moved, sends, silent⟩ := offReplica_step step
  have listens : ∀ value, e = .changes value → (offReplica c.1).latest = none := by
    intro value same
    have unsent := before.unsent (silent value same)
    rw [← before.sent] at unsent
    exact Option.not_isSome_iff_eq_none.mp (by rw [unsent]; exact Bool.false_ne_true)
  refine ⟨starting, Replica.faithful_step before.faithful listens moved, ?_⟩
  rw [Replica.latest_step moved, List.any_append, ← sends, ← before.sent]
  cases e.sends <;> simp

/-- What the process does in a step of the two: nothing, or a step of its own; a message
is delivered when it is the oldest. -/
theorem process_next {c c' : HostTracking ms × List (TrackingEvent ms)} {i : TrackingInput ms}
    (next : (hostTracking ms).next c i = some c') :
    (c'.1.process = c.1.process ∧ processEvents c'.2 = processEvents c.2) ∨
    ∃ j, ms.process.next (c.1.process, processEvents c.2) j =
        some (c'.1.process, processEvents c'.2) ∧
      ∀ message meets, j = .deliver message meets → ∃ rest, c.1.inTransit = message :: rest := by
  obtain ⟨s, out, step, rfl⟩ := (hostTracking ms).next_some.mp next
  rw [processEvents_append]
  rcases tracking_step_cases step with ⟨_, _, rfl, rfl⟩ | ⟨_, _, rfl, rfl⟩ |
    ⟨state, _, _, rfl, rfl⟩ | ⟨state, _, _, rfl, rfl⟩ | ⟨ec, _, _, rfl, rfl⟩ |
    ⟨meets, message, rest, process, events, _, _, oldest, delivered, rfl, rfl⟩ |
    ⟨k, j, process, events, _, moved, rfl, rfl⟩
  · exact Or.inl ⟨rfl, List.append_nil _⟩
  · exact Or.inl ⟨rfl, List.append_nil _⟩
  · exact Or.inl ⟨rfl, List.append_nil _⟩
  · exact Or.inl ⟨rfl, List.append_nil _⟩
  · exact Or.inl ⟨rfl, List.append_nil _⟩
  · refine Or.inr ⟨.deliver message meets, ?_, fun _ _ same => ?_⟩
    · rw [processEvents_process]
      exact ms.process.next_some.mpr ⟨process, events, delivered, rfl⟩
    · cases same
      exact ⟨rest, oldest⟩
  · refine Or.inr ⟨.monitor k j, ?_, fun _ _ same => by cases same⟩
    rw [processEvents_process]
    exact ms.process.next_some.mpr ⟨process, events, moved, rfl⟩

/-- What the process keeps in steps in which a Get reply does not turn the host on, it
keeps beside the service. -/
theorem always_of_process {I P : MonitorProcess ms × List (ProcessEvent ms) → Prop}
    (kept : ∀ c j c', I c → TurnsOnBySignal c.1 j → ms.process.next c j = some c' → I c')
    (gives : ∀ c, I c → P c) (first : I ({}, [])) (state : String) (is : List (TrackingInput ms)) :
    (hostTracking ms).Always (fun c => P (c.1.process, processEvents c.2))
      (HostTracking.initial ms state, []) is := by
  refine (hostTracking ms).always_of_invariant
    (I := fun c => Tracked c ∧ I (c.1.process, processEvents c.2))
    (fun c i c' before _ next => ⟨tracked_step before.1 next, ?_⟩) (fun c both => gives _ both.2)
    ⟨tracked_initial state, first⟩ ((hostTracking ms).along_true _ is)
  rcases process_next next with ⟨same, traced⟩ | ⟨j, moved, oldest⟩
  · rw [same, traced]
    exact before.2
  · refine kept _ j _ before.2 ?_ moved
    cases j with
    | monitor k j => trivial
    | deliver message meets =>
      cases message with
      | signal state => trivial
      | reply ec property =>
        obtain ⟨rest, oldest⟩ := oldest _ _ rfl
        cases ok : ec.failed with
        | true => exact Or.inl ok
        | false =>
          cases started : c.1.process.host.initialized with
          | false => exact Or.inr (Or.inr (Or.inr started))
          | true =>
            have repeats := reply_repeats before.1 oldest ok started
            by_cases off : property = hostStateOff
            · exact Or.inr (Or.inl off)
            · refine Or.inr (Or.inr (Or.inl ?_))
              rw [repeats]
              exact beq_false_of_ne off

/-- In every state of every run in which no message that reports a state is on its way,
all monitors exist if the service has sent a state, and none does otherwise; and if so,
the host is recorded as off exactly when it is. -/
theorem host_state_settles (ms : Monitors κ) (state : String) (is : List (TrackingInput ms)) :
    (hostTracking ms).Always (fun c => (∀ message ∈ c.1.inTransit, reported message = none) →
      (∀ k, (c.1.process.monitors k).isSome = c.2.any sendsState) ∧
      (c.2.any sendsState = true →
        hostIsOff c.1.process.host = (c.1.currentHostState == hostStateOff)))
      (HostTracking.initial ms state, []) is := by
  intro pre post c split reach settled
  have ready : ∀ k, Ready k c.1.process :=
    always_of_process (I := fun c => ∀ k, Ready k c.1) (P := fun c => ∀ k, Ready k c.1)
      (fun c j c' before _ next k => by
        obtain ⟨s', out, step, rfl⟩ := ms.process.next_some.mp next
        exact ready_step (before k) step)
      (fun c ready => ready) (fun k => (readyNotified_initial k).1) state is pre post c split reach
  have tracked : Tracked c := (hostTracking ms).invariant (I := Tracked)
    (fun _ _ _ before _ next => tracked_step before next) (tracked_initial state)
    ((hostTracking ms).along_true _ pre) reach
  have bare : ∀ message ∈ (offReplica c.1).inTransit, message.value = none := by
    intro message member
    obtain ⟨m, among, rfl⟩ := List.mem_map.mp member
    rw [offMessage_value, settled m among]
    rfl
  have started : c.1.process.host.initialized = c.2.any sendsState := by
    rw [← tracked.sent, Replica.latest_of_settled bare]
    exact (recordedOff_isSome _).symm
  refine ⟨fun k => (ready k).started.trans started, fun sent => ?_⟩
  have holds : (offReplica c.1).held = some (hostIsOff c.1.process.host) :=
    if_pos (started.trans sent)
  exact Replica.current_of_settled tracked.faithful bare holds

/-- A message at whose delivery the monitors are notified. -/
def turnsOn : HostInput → Bool
  | .signal state => state != hostStateOff
  | .reply _ _ => false

/-- The service announces a state other than Off. -/
def announcesOn : TrackingEvent ms → Bool
  | .sent message => turnsOn message
  | .process _ => false

theorem sendHostOn_delivered {s s' : HostState} {i : HostInput} {out : List HostEffect}
    (step : hostMachine.step s i = some (s', out)) :
    out.count .sendHostOn = (turnsOn i).toNat := by
  rcases host_step_cases step with ⟨_, _, rfl, _, _, rfl⟩ | ⟨_, _, rfl, _, _, rfl⟩ |
    ⟨state, rfl, _, rfl⟩
  · rfl
  · cases s.initialized <;> rfl
  · simp only [turnsOn, bne]
    cases s.initialized <;> cases state == hostStateOff <;> rfl

/-- Each announcement that turns the host on is on its way or has been passed on. -/
def Announced (c : HostTracking ms × List (TrackingEvent ms)) : Prop :=
  (hostEffects (processEvents c.2)).count .sendHostOn + c.1.inTransit.countP turnsOn =
    c.2.countP announcesOn

theorem announced_step {c c' : HostTracking ms × List (TrackingEvent ms)} {i : TrackingInput ms}
    (before : Announced c) (next : (hostTracking ms).next c i = some c') : Announced c' := by
  obtain ⟨s, out, step, rfl⟩ := (hostTracking ms).next_some.mp next
  unfold Announced at before ⊢
  have told : ∀ message, processEvents (c.2 ++ [.sent message]) = processEvents c.2 := by
    intro message
    rw [processEvents_append]
    exact List.append_nil _
  have silent : ∀ events : List (ProcessEvent ms),
      (c.2 ++ events.map TrackingEvent.process).countP announcesOn = c.2.countP announcesOn :=
    countP_append_unmarked (fun _ => rfl) c.2
  rcases tracking_step_cases step with ⟨_, _, rfl, rfl⟩ | ⟨_, _, rfl, rfl⟩ |
    ⟨state, _, _, rfl, rfl⟩ | ⟨state, _, _, rfl, rfl⟩ | ⟨ec, _, _, rfl, rfl⟩ |
    ⟨meets, message, rest, process, events, _, _, oldest, delivered, rfl, rfl⟩ |
    ⟨k, j, process, events, _, moved, rfl, rfl⟩
  · rwa [List.append_nil]
  · rwa [List.append_nil]
  · rwa [List.append_nil]
  · rw [told, List.countP_append, List.countP_append, ← before]
    exact (Nat.add_assoc _ _ _).symm
  · rw [told, List.countP_append, List.countP_append, ← before]
    exact (Nat.add_assoc _ _ _).symm
  · rw [silent, ← before, processEvents_append, processEvents_process, hostEffects_append,
      List.count_append, oldest, List.countP_cons]
    rcases process_step_host delivered with ⟨_, _, same, handled⟩ | ⟨_, _, same, _⟩
    · cases same
      rw [sendHostOn_delivered handled]
      cases turnsOn message with
      | true =>
        simp only [Bool.toNat_true, if_true]
        omega
      | false =>
        simp only [Bool.toNat_false, Bool.false_eq_true, if_false]
        omega
    · cases same
  · rw [silent, ← before, processEvents_append, processEvents_process, hostEffects_append]
    rcases process_step_host moved with ⟨_, _, same, _⟩ | ⟨_, _, _, _, quiet⟩
    · cases same
    · rw [quiet, List.append_nil]

/-- In every state of every run each monitor has been notified once for each
announcement of a state other than Off, but for those that are on their way. -/
theorem announcements_notified (ms : Monitors κ) (state : String) (is : List (TrackingInput ms)) :
    (hostTracking ms).Always (fun c => ∀ k,
      (eventsOf k (processEvents c.2)).countP isNotified + c.1.inTransit.countP turnsOn =
        c.2.countP announcesOn) (HostTracking.initial ms state, []) is := by
  intro pre post c split reach k
  have notified : Ready k c.1.process ∧ Notified k (c.1.process, processEvents c.2) :=
    always_of_process (I := fun c => Ready k c.1 ∧ Notified k c)
      (P := fun c => Ready k c.1 ∧ Notified k c)
      (fun c j c' before _ next => readyNotified_step before next) (fun c both => both)
      (readyNotified_initial k) state is pre post c split reach
  have first : Announced (HostTracking.initial ms state, []) := rfl
  have announced : Announced c := (hostTracking ms).invariant (I := Announced)
    (fun _ _ _ before _ next => announced_step before next) first
    ((hostTracking ms).along_true _ pre) reach
  rw [notified.2.each]
  exact announced

/-- In every state of every run an asserted line of any polling monitor is watched
while the host is recorded as on. -/
theorem tracked_assertions_watched (ms : Monitors κ) (state : String)
    (is : List (TrackingInput ms)) :
    (hostTracking ms).Always (fun c => ∀ k (polls : PollsAs (ms.cls k)) t,
      c.1.process.monitors k = some t →
        AssertionWatched (polls.base t, polls.events (eventsOf k (processEvents c.2))))
      (HostTracking.initial ms state, []) is :=
  always_of_process (I := fun c => ∀ k (polls : PollsAs (ms.cls k)), Polled polls c)
    (P := fun c => ∀ k (polls : PollsAs (ms.cls k)) t, c.1.monitors k = some t →
      AssertionWatched (polls.base t, polls.events (eventsOf k c.2)))
    (fun _ _ _ before bySignal next k polls => polled_next (before k polls) bySignal next)
    (fun _ kept k polls _ present => (kept k polls).watched present)
    (fun _ polls => polled_initial polls) state is

/-- So it is for each of the four classes, among any others. -/
theorem tracked_pollingClass_watched (listing : Listing (Option κ)) (others : κ → MonitorClass)
    (p : PollingClass) (state : String) (is : List (TrackingInput (listing.among p.cls others))) :
    (hostTracking (listing.among p.cls others)).Always (fun c => ∀ t : p.cls.State,
      c.1.process.monitors none = some t →
        AssertionWatched (p.polls.base t, p.polls.events (eventsOf none (processEvents c.2))))
      (HostTracking.initial (listing.among p.cls others) state, []) is :=
  always_of_process (I := @Polled _ _ (listing.among p.cls others) none p.polls)
    (P := fun c => ∀ t : p.cls.State, c.1.monitors none = some t →
      AssertionWatched (p.polls.base t, p.polls.events (eventsOf none c.2)))
    (fun _ _ _ before bySignal next => polled_next before bySignal next)
    (fun _ polled _ present => polled.watched present)
    (@polled_initial _ _ (listing.among p.cls others) none p.polls) state is

end tracking

/-- The host turns on between the match and the Get: the signal starts the monitors
and notifies them, and the reply after it says the same again. -/
example : ((hostTracking smiAndPresence).exec (.initial smiAndPresence hostStateOff, [])
    [.startHostStateMonitor, .change "xyz.openbmc_project.State.Host.HostState.Running",
      .initializeHostState, .answer ⟨0⟩, .deliver meetsBouncing, .deliver meetsBouncing]).map
      (fun c => (c.1.process.host, c.1.inTransit, c.2.countP announcesOn)) =
    some (⟨false, true⟩, [], 1) := by decide

end HostErrorMonitor.Guarantees
