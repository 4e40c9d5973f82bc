import HostErrorMonitor.Guarantees.OverrideRefinement
import HostErrorMonitor.Guarantees.PollingReport
import HostErrorMonitor.Guarantees.ProcessStart
import HostErrorMonitor.Spec.MonitorClasses

/-!
# The polling monitors of the process

`PollsAs` is what the process needs to know of a class to see its monitors as
polling monitors: constructed or notified, they poll anew, and by themselves they
do only what the base class does. Each of the derived classes is one. Whatever
other monitors run beside them, their asserted lines are watched, as long as no Get
reply turns the host on, and they report nothing while the host is recorded as off.
-/
namespace HostErrorMonitor.Guarantees
open HostErrorMonitor.Source HostErrorMonitor.Source.BaseGPIOPollMonitor HostErrorMonitor.Spec
open Reactive
open Monitors hiding sendHostOn checkMonitors

/-- A window begins, with the host recorded as `off`; before it, nothing is reported
while the host is off. -/
def BeginsWindow (cfg : PollConfig) (off : Bool) (s' : BaseGPIOPollMonitor) (out : List PollEvent) :
    Prop :=
  ∃ env s before, s.hostOff = off ∧ (∀ x ∈ before, isReport x = true → off = false) ∧
    s' = (startPolling cfg env s).1 ∧ out = before ++ (startPolling cfg env s).2

/-- A class whose monitors are polling monitors. -/
structure PollsAs (cls : MonitorClass) where
  cfg : PollConfig
  base : cls.State → BaseGPIOPollMonitor
  event : cls.Event → Option PollEvent
  constructed : ∀ off, cls.isValid (cls.construct off).1 = true →
    BeginsWindow cfg off (base (cls.construct off).1) ((cls.construct off).2.filterMap event)
  hostState : ∀ off s, base (cls.hostState off s) = { base s with hostOff := off }
  notified : ∀ w s s' out, cls.hostOn w s = some (s', out) →
    BeginsWindow cfg (base s).hostOff (base s') (out.filterMap event)
  own : ∀ s i s' out, cls.own.step s i = some (s', out) →
    ∃ is, (∀ j ∈ is, fromHost j = false) ∧
      (pollMachine cfg).exec (base s, []) is = some (base s', out.filterMap event)

namespace PollsAs
variable {cls : MonitorClass} (polls : PollsAs cls)

def memberEvent : MemberEvent cls.Event → Option PollEvent
  | .event e => polls.event e
  | _ => none

/-- What the base does in a trace of the monitor. -/
def events (tr : List (MemberEvent cls.Event)) : List PollEvent := tr.filterMap polls.memberEvent

theorem events_append (tr out : List (MemberEvent cls.Event)) :
    polls.events (tr ++ out) = polls.events tr ++ polls.events out := List.filterMap_append

theorem events_event (out : List cls.Event) :
    polls.events (out.map .event) = out.filterMap polls.event := by
  unfold events
  rw [List.filterMap_map]
  rfl

theorem events_marked (mark : MemberEvent cls.Event) (unseen : polls.memberEvent mark = none)
    (out : List cls.Event) : polls.events (mark :: out.map .event) = out.filterMap polls.event := by
  rw [← polls.events_event]
  exact List.filterMap_cons_none unseen

end PollsAs

/-- Recording that the host is off, or still on, leaves the line watched. -/
theorem watching_hostState {s : BaseGPIOPollMonitor} {tr : List PollEvent} (off : Bool)
    (watching : Watching (s, tr)) (turnsOn : s.hostOff = false ∨ off = true) :
    Watching ({ s with hostOff := off }, tr) := by
  have step : (pollMachine everySecond).next (s, tr) (.hostState off) =
      some ({ s with hostOff := off }, tr) := by
    simp [Machine.next, pollMachine]
  exact @watching_step everySecond _ _ (.hostState off) watching turnsOn step

/-- Where `asserted` returns true the host is recorded as on. -/
theorem sees_on {env : Interference} {s : BaseGPIOPollMonitor} (saw : sees env s = true) :
    s.hostOff = false := by
  rw [sees_eq] at saw
  cases off : s.hostOff with
  | false => rfl
  | true => simp [off] at saw

theorem poll_reports_on {cfg : PollConfig} {env : Interference} {s : BaseGPIOPollMonitor}
    {x : PollEvent} (member : x ∈ (poll cfg env s).2) (report : isReport x = true) :
    s.hostOff = false := by
  rcases poll_cases cfg env s with ⟨_, result⟩ | ⟨saw, _, _⟩ | ⟨saw, _, _⟩
  · rw [result] at member
    rcases List.mem_append.mp member with sample | late
    · rcases mem_seen sample with rfl | rfl | rfl <;> cases report
    · simp only [List.mem_cons, List.not_mem_nil, or_false] at late
      rcases late with rfl | rfl <;> cases report
  · exact sees_on saw
  · exact sees_on saw

theorem window_hostOff {cfg : PollConfig} {off : Bool} {s' : BaseGPIOPollMonitor}
    {out : List PollEvent} (begins : BeginsWindow cfg off s' out) :
    s'.hostOff = off ∧ ∀ x ∈ out, isReport x = true → off = false := by
  obtain ⟨env, s, before, recorded, silent, rfl, rfl⟩ := begins
  rw [startPolling_eq]
  refine ⟨(poll_hostOff cfg env _).trans recorded, fun x member report => ?_⟩
  rcases List.mem_append.mp member with early | window
  · exact silent x early report
  · rcases List.mem_cons.mp window with rfl | polled
    · cases report
    · rw [← recorded]
      exact @poll_reports_on cfg env (restarted cfg s) x polled report

theorem window_append {cfg : PollConfig} {off : Bool} {s' : BaseGPIOPollMonitor}
    {before out : List PollEvent} (silent : ∀ x ∈ before, isReport x = true → off = false)
    (begins : BeginsWindow cfg off s' out) : BeginsWindow cfg off s' (before ++ out) := by
  obtain ⟨env, s, earlier, recorded, quiet, rfl, rfl⟩ := begins
  refine ⟨env, s, before ++ earlier, recorded, fun x member report => ?_, rfl,
    (List.append_assoc _ _ _).symm⟩
  rcases List.mem_append.mp member with first | later
  · exact silent x first report
  · exact quiet x later report

theorem window_watching {cfg : PollConfig} {off : Bool} {s' : BaseGPIOPollMonitor}
    {out : List PollEvent} (begins : BeginsWindow cfg off s' out) (tr : List PollEvent) :
    Watching (s', tr ++ out) := by
  obtain ⟨env, s, before, _, _, rfl, rfl⟩ := begins
  rw [← List.append_assoc]
  exact startPolling_watching cfg env s (tr ++ before)

/-- The base's own steps report only while the host is on, and leave that as it is. -/
theorem own_step_reports {cfg : PollConfig} {s s' : BaseGPIOPollMonitor} {i : PollInput}
    {out : List PollEvent} (own : fromHost i = false)
    (step : (pollMachine cfg).step s i = some (s', out)) :
    s'.hostOff = s.hostOff ∧ ∀ x ∈ out, isReport x = true → s.hostOff = false := by
  refine ⟨own_step_hostOff own step, fun x member report => ?_⟩
  rcases poll_step_cases step with ⟨_, _, rfl⟩ | ⟨_, _, _, rfl⟩ | ⟨_, _, _, rfl⟩ |
    ⟨_, _, _, rfl⟩ | ⟨_, _, _, rfl, _⟩ | ⟨_, _, _, _, rfl, _⟩ |
    ⟨_, _, ⟨rfl, _⟩ | ⟨rfl, _⟩, _⟩ | ⟨env, _, _, run⟩ | ⟨env, _, _, run⟩
  · rw [List.mem_singleton.mp member] at report
    cases report
  · cases member
  · cases member
  · cases member
  · cases member
  · cases member
  · cases own
  · cases own
  · have begins : BeginsWindow cfg s.hostOff s' out :=
      ⟨env, { s with eventReady := s.eventReady - 1 }, [], rfl, by simp, by rw [run], by rw [run]; rfl⟩
    exact (window_hostOff begins).2 x member report
  · have polled : (poll cfg env { s with timerReady := s.timerReady - 1 }).2 = out :=
      congrArg (·.2) run
    rw [← polled] at member
    exact @poll_reports_on cfg env { s with timerReady := s.timerReady - 1 } x member report

/-- A run of the base by itself. -/
theorem own_run {cfg : PollConfig} {s s' : BaseGPIOPollMonitor} {is : List PollInput}
    {out : List PollEvent} (own : ∀ j ∈ is, fromHost j = false)
    (run : (pollMachine cfg).exec (s, []) is = some (s', out)) :
    s'.hostOff = s.hostOff ∧ (∀ x ∈ out, isReport x = true → s.hostOff = false) ∧
      ∀ tr, Watching (s, tr) → Watching (s', tr ++ out) := by
  have along : ∀ c : BaseGPIOPollMonitor × List PollEvent,
      (pollMachine cfg).Along (fun _ i => fromHost i = false) c is := by
    intro c
    apply (pollMachine cfg).along_of_steps
    intro pre i post d split _
    exact own i (by simp [split])
  have kept : s'.hostOff = s.hostOff ∧ ∀ x ∈ out, isReport x = true → s.hostOff = false := by
    refine (pollMachine cfg).invariant (I := fun c => c.1.hostOff = s.hostOff ∧
      ∀ x ∈ c.2, isReport x = true → s.hostOff = false) (fun c i c' before own next => ?_) ?_
      (along (s, [])) run
    · obtain ⟨t, more, step, rfl⟩ := (pollMachine cfg).next_some.mp next
      obtain ⟨same, reports⟩ := own_step_reports own step
      refine ⟨same.trans before.1, fun x member report => ?_⟩
      rcases List.mem_append.mp member with old | new
      · exact before.2 x old report
      · rw [← before.1]
        exact reports x new report
    · exact ⟨rfl, by simp⟩
  refine ⟨kept.1, kept.2, fun tr watching => ?_⟩
  obtain ⟨more, added, anywhere⟩ := (pollMachine cfg).exec_adds run
  have same : out = more := added
  rw [same]
  refine (pollMachine cfg).invariant (I := Watching) (fun c i c' before own next => ?_) watching
    (along (s, tr)) (anywhere tr)
  have turnsOn : TurnsOnWithHostOn c i := by
    cases i with
    | hostState off => cases own
    | _ => trivial
  exact watching_step before turnsOn next

section process
variable {κ : Type} [DecidableEq κ] {ms : Monitors κ} {k : κ}

/-- The condition on a step: a Get reply does not turn the host on, once the monitors
are started. -/
def TurnsOnBySignal (s : MonitorProcess ms) : ProcessInput ms → Prop
  | .deliver (.reply ec property) _ =>
    ec.failed = true ∨ property = hostStateOff ∨ hostIsOff s.host = false ∨
      s.host.initialized = false
  | _ => True

instance (s : MonitorProcess ms) (i : ProcessInput ms) : Decidable (TurnsOnBySignal s i) :=
  match i with
  | .deliver (.reply _ _) _ => inferInstanceAs (Decidable (_ ∨ _))
  | .deliver (.signal _) _ => .isTrue trivial
  | .monitor _ _ => .isTrue trivial

omit [DecidableEq κ] in
/-- A delivery that neither constructs nor notifies does not turn the host on. -/
theorem stays_off {s s' : MonitorProcess ms} {j : HostInput} {meets : ∀ k, (ms.cls k).Meets}
    {effects : List HostEffect} (handled : hostMachine.step s.host j = some (s'.host, effects))
    (constructed : .startMonitors ∉ effects) (unsent : .sendHostOn ∉ effects)
    (bySignal : TurnsOnBySignal s (.deliver j meets)) :
    hostIsOff s.host = false ∨ hostIsOff s'.host = true := by
  rcases host_step_cases handled with ⟨_, _, _, _, same, _⟩ | ⟨ec, property, rfl, ok, same, rfl⟩ |
    ⟨state, rfl, same, rfl⟩
  · rw [same]
    cases hostIsOff s.host
    · exact Or.inl rfl
    · exact Or.inr rfl
  · rcases bySignal with failed | off | on | fresh
    · rw [ok] at failed
      cases failed
    · exact Or.inr (by rw [same, off]; rfl)
    · exact Or.inl on
    · exact absurd (by simp [fresh]) constructed
  · refine Or.inr ?_
    rw [same]
    by_contra on
    have notOff : (state == hostStateOff) = false := by simpa [hostIsOff] using on
    exact unsent (by simp [notOff])

omit [DecidableEq κ] in
/-- A monitor when a delivery has recorded the host state and `init` has checked it:
it was constructed, and polls, or it reads what is recorded. -/
theorem recordedIn_polls (polls : PollsAs (ms.cls k)) {host : HostState} {effects : List HostEffect}
    {s : Option (ms.cls k).State} {t : (ms.cls k).State}
    (present : (recordedIn (ms.cls k) host effects s).1 = some t)
    (checked : .startMonitors ∈ effects → (ms.cls k).isValid t = true) :
    (.startMonitors ∈ effects ∧ BeginsWindow polls.cfg (hostIsOff host) (polls.base t)
      (polls.events (recordedIn (ms.cls k) host effects s).2)) ∨
    (.startMonitors ∉ effects ∧ (∃ s₀, s = some s₀ ∧
      polls.base t = { polls.base s₀ with hostOff := hostIsOff host }) ∧
      polls.events (recordedIn (ms.cls k) host effects s).2 = []) := by
  by_cases starts : .startMonitors ∈ effects
  · have constructs : recordedIn (ms.cls k) host effects s =
        (some ((ms.cls k).construct (hostIsOff host)).1,
          .constructed :: ((ms.cls k).construct (hostIsOff host)).2.map .event) := if_pos starts
    rw [constructs] at present ⊢
    cases present
    rw [polls.events_marked _ rfl]
    exact Or.inl ⟨starts, polls.constructed _ (checked starts)⟩
  · have keeps : recordedIn (ms.cls k) host effects s =
        (s.map ((ms.cls k).hostState (hostIsOff host)), []) := if_neg starts
    rw [keeps] at present ⊢
    obtain ⟨s₀, before, rfl⟩ := Option.map_eq_some_iff.mp present
    exact Or.inr ⟨starts, ⟨s₀, before, polls.hostState _ s₀⟩, rfl⟩

/-- What a step does to a polling monitor. -/
inductive PolledStep (polls : PollsAs (ms.cls k)) (i : ProcessInput ms) (s s' : MonitorProcess ms)
    (t : (ms.cls k).State) (out : List PollEvent) : Prop where
  | window (begins : BeginsWindow polls.cfg (hostIsOff s'.host) (polls.base t) out)
  | recorded (t₀ : (ms.cls k).State) (before : s.monitors k = some t₀)
      (writes : polls.base t = { polls.base t₀ with hostOff := hostIsOff s'.host })
      (silent : out = [])
      (turnsOn : TurnsOnBySignal s i → hostIsOff s.host = false ∨ hostIsOff s'.host = true)
  | own (t₀ : (ms.cls k).State) (before : s.monitors k = some t₀) (same : s'.host = s.host)
      (is : List PollInput) (inputs : ∀ j ∈ is, fromHost j = false)
      (run : (pollMachine polls.cfg).exec (polls.base t₀, []) is = some (polls.base t, out))

theorem polled_step (polls : PollsAs (ms.cls k)) {i : ProcessInput ms} {s s' : MonitorProcess ms}
    {out : List (ProcessEvent ms)} (step : ms.process.step s i = some (s', out))
    {t : (ms.cls k).State} (present : s'.monitors k = some t) :
    PolledStep polls i s s' t (polls.events (eventsOf k out)) := by
  cases member_step step k with
  | delivered j meets effects handled announced told checked =>
    rcases told_cases told with ⟨unsent, same⟩ | ⟨sent, t₁, t', events, reached, called, result, traced⟩
    · obtain ⟨pointer, trace⟩ := Prod.mk.inj same
      have valid : .startMonitors ∈ effects → (ms.cls k).isValid t = true := by
        intro starts
        have passed := checked starts
        rwa [present] at passed
      rw [← trace]
      rcases recordedIn_polls polls (pointer.trans present) valid with ⟨_, begins⟩ |
        ⟨constructed, ⟨t₀, before, writes⟩, silent⟩
      · exact .window begins
      · exact .recorded t₀ before writes silent
          (stays_off handled constructed unsent)
    · rw [present] at result
      cases result
      have valid : .startMonitors ∈ effects → (ms.cls k).isValid t₁ = true := by
        intro starts
        have passed := checked starts
        rw [present] at passed
        rw [← (ms.cls k).hostOn_valid _ _ _ _ called]
        exact passed
      have begins := polls.notified _ _ _ _ called
      rw [traced, polls.events_append, polls.events_marked _ rfl]
      rcases recordedIn_polls polls reached valid with ⟨_, constructs⟩ | ⟨_, ⟨_, _, writes⟩, silent⟩
      · obtain ⟨off, reports⟩ := window_hostOff constructs
        rw [off] at begins
        exact .window (window_append reports begins)
      · rw [writes] at begins
        rw [silent]
        exact .window begins
  | own j same quiet stepped =>
    rcases MonitorClass.pointer_step_cases stepped with ⟨_, h, _⟩ | ⟨_, h, _⟩ | ⟨_, _, _, _, h, _⟩ |
      ⟨j', t₀, t', events, h, before, moved, result, traced⟩
    · cases h
    · cases h
    · cases h
    · rw [present] at result
      cases result
      obtain ⟨is, inputs, run⟩ := polls.own _ _ _ _ moved
      rw [traced, polls.events_event]
      exact .own t₀ before same is inputs run
  | other j i apart same quiet kept none =>
    rw [none]
    exact .own t (kept.symm.trans present) same [] (by simp) rfl

/-- Something happens only to a monitor that exists. -/
theorem present_of_events {i : ProcessInput ms} {s s' : MonitorProcess ms}
    {out : List (ProcessEvent ms)} (step : ms.process.step s i = some (s', out))
    (events : eventsOf k out ≠ []) : ∃ t, s'.monitors k = some t := by
  cases member_step step k with
  | delivered j meets effects handled announced told checked =>
    rcases told_cases told with ⟨_, same⟩ | ⟨_, _, t', _, _, _, result, _⟩
    · have pointer := congrArg Prod.fst same
      have trace := congrArg Prod.snd same
      unfold recordedIn at pointer trace
      split at trace
      next starts =>
        rw [if_pos starts] at pointer
        exact ⟨_, pointer.symm⟩
      next => exact absurd trace.symm events
    · exact ⟨t', result⟩
  | own j same quiet stepped =>
    rcases MonitorClass.pointer_step_cases stepped with ⟨_, h, _⟩ | ⟨_, h, _⟩ | ⟨_, _, _, _, h, _⟩ |
      ⟨_, _, t', _, _, _, _, result, _⟩
    · cases h
    · cases h
    · cases h
    · exact ⟨t', result⟩
  | other j i apart same quiet kept none => exact absurd none events

/-- The base reads the host state that is recorded. -/
def ReadsRecorded (polls : PollsAs (ms.cls k)) (s : MonitorProcess ms) : Prop :=
  ∀ t, s.monitors k = some t → (polls.base t).hostOff = hostIsOff s.host

theorem readsRecorded_step {polls : PollsAs (ms.cls k)} {i : ProcessInput ms}
    {s s' : MonitorProcess ms} {out : List (ProcessEvent ms)} (reads : ReadsRecorded polls s)
    (step : ms.process.step s i = some (s', out)) : ReadsRecorded polls s' := by
  intro t present
  cases polled_step polls step present with
  | window begins => exact (window_hostOff begins).1
  | recorded t₀ before writes silent turnsOn => rw [writes]
  | own t₀ before same is inputs run =>
    rw [(own_run inputs run).1, same]
    exact reads t₀ before

theorem readsRecorded_of_run (polls : PollsAs (ms.cls k)) {is : List (ProcessInput ms)}
    {c : MonitorProcess ms × List (ProcessEvent ms)} (run : ms.process.exec ({}, []) is = some c) :
    ReadsRecorded polls c.1 := by
  refine ms.process.invariant (I := fun c => ReadsRecorded polls c.1)
    (fun c i c' before _ next => ?_) ?_ (ms.process.along_true _ is) run
  · obtain ⟨s', out, step, rfl⟩ := ms.process.next_some.mp next
    exact readsRecorded_step before step
  · intro t none
    cases none

/-- A step that leaves the host off reports nothing. -/
theorem silent_step {polls : PollsAs (ms.cls k)} {i : ProcessInput ms}
    {s s' : MonitorProcess ms} {out : List (ProcessEvent ms)} (reads : ReadsRecorded polls s)
    (step : ms.process.step s i = some (s', out)) (off : hostIsOff s'.host = true)
    {x : PollEvent} (member : x ∈ polls.events (eventsOf k out)) : isReport x = false := by
  by_contra reported
  have report : isReport x = true := by simpa using reported
  have some : eventsOf k out ≠ [] := by
    intro none
    rw [none] at member
    cases member
  obtain ⟨t, present⟩ := present_of_events step some
  have on : hostIsOff s'.host = false := by
    cases polled_step polls step present with
    | window begins => exact (window_hostOff begins).2 x member report
    | recorded t₀ before writes silent turnsOn =>
      rw [silent] at member
      cases member
    | own t₀ before same is inputs run =>
      rw [same, ← reads t₀ before]
      exact (own_run inputs run).2.1 x member report
  rw [on] at off
  cases off

/-- In every run no polling monitor reports in a step that leaves the host recorded as
off, whichever monitors run beside it. -/
theorem silent_while_off (ms : Monitors κ) (is : List (ProcessInput ms)) :
    ms.process.Along (fun c i => ∀ s' out, ms.process.step c.1 i = some (s', out) →
      hostIsOff s'.host = true → ∀ k (polls : PollsAs (ms.cls k)),
        ∀ x ∈ polls.events (eventsOf k out), isReport x = false) ({}, []) is := by
  apply ms.process.along_of_steps
  intro pre i post c _ reach s' out step off k polls x member
  exact silent_step (readsRecorded_of_run polls reach) step off member

/-- Every polling monitor that exists watches its line. -/
def PolledWatching (polls : PollsAs (ms.cls k)) (c : MonitorProcess ms × List (ProcessEvent ms)) :
    Prop :=
  ∀ t, c.1.monitors k = some t → Watching (polls.base t, polls.events (eventsOf k c.2))

theorem polledWatching_step {polls : PollsAs (ms.cls k)}
    {c c' : MonitorProcess ms × List (ProcessEvent ms)} {i : ProcessInput ms}
    (reads : ReadsRecorded polls c.1) (watching : PolledWatching polls c)
    (bySignal : TurnsOnBySignal c.1 i) (next : ms.process.next c i = some c') :
    PolledWatching polls c' := by
  obtain ⟨s', out, step, rfl⟩ := ms.process.next_some.mp next
  intro t present
  rw [eventsOf_append, polls.events_append]
  cases polled_step polls step present with
  | window begins => exact window_watching begins _
  | recorded t₀ before writes silent turnsOn =>
    rw [silent, List.append_nil, writes]
    apply watching_hostState _ (watching t₀ before)
    rw [reads t₀ before]
    exact turnsOn bySignal
  | own t₀ before same is inputs run => exact (own_run inputs run).2.2 _ (watching t₀ before)

/-- What a polling monitor of the process keeps. -/
structure Polled (polls : PollsAs (ms.cls k)) (c : MonitorProcess ms × List (ProcessEvent ms)) :
    Prop where
  reads : ReadsRecorded polls c.1
  watching : PolledWatching polls c

theorem polled_initial (polls : PollsAs (ms.cls k)) : Polled polls ({}, []) where
  reads t none := by cases none
  watching t none := by cases none

theorem polled_next {polls : PollsAs (ms.cls k)} {c c' : MonitorProcess ms × List (ProcessEvent ms)}
    {i : ProcessInput ms} (before : Polled polls c) (bySignal : TurnsOnBySignal c.1 i)
    (next : ms.process.next c i = some c') : Polled polls c' := by
  refine ⟨?_, polledWatching_step before.reads before.watching bySignal next⟩
  obtain ⟨s', out, step, rfl⟩ := ms.process.next_some.mp next
  exact readsRecorded_step before.reads step

theorem Polled.watched {polls : PollsAs (ms.cls k)} {c : MonitorProcess ms × List (ProcessEvent ms)}
    (polled : Polled polls c) {t : (ms.cls k).State} (present : c.1.monitors k = some t) :
    AssertionWatched (polls.base t, polls.events (eventsOf k c.2)) :=
  watched_of_watching (polled.watching t present)

/-- In every state of every run in which no Get reply turns the host on once the
monitors are started, an asserted line of any polling monitor is watched while the
host is on, whichever monitors run beside it. -/
theorem process_assertions_watched (ms : Monitors κ) (is : List (ProcessInput ms))
    (bySignal : ms.process.Along (fun c i => TurnsOnBySignal c.1 i) ({}, []) is) :
    ms.process.Always (fun c => ∀ k (polls : PollsAs (ms.cls k)) t, c.1.monitors k = some t →
      AssertionWatched (polls.base t, polls.events (eventsOf k c.2))) ({}, []) is :=
  ms.process.always_of_invariant (I := fun c => ∀ k (polls : PollsAs (ms.cls k)), Polled polls c)
    (fun _ _ _ before bySignal next k polls => polled_next (before k polls) bySignal next)
    (fun _ kept k polls _ present => (kept k polls).watched present)
    (fun _ polls => polled_initial polls) bySignal

end process

/-- The line of the SMI signal, asserted, and a CPU that is absent. -/
def smiAndPresence : Monitors Bool where
  cls
    | true => smiClass everySecond.intBits everySecond.intBits_ge ⟨⟨true, true, 3⟩, 0, true, 0, bouncing⟩
    | false => cpuPresenceClass 0 ⟨true, true, true⟩
  order := [true, false]
  once := by decide
  all := by decide

def meetsBouncing : ∀ k, (smiAndPresence.cls k).Meets
  | true => bouncing
  | false => ()

/-- The host is off at first and turns on with a signal, the window of the SMI signal
runs out, a Get reply says that the host is off, and it turns on again. -/
def turnsOnTwice : List (ProcessInput smiAndPresence) :=
  [.deliver (.reply ⟨0⟩ hostStateOff) meetsBouncing,
    .deliver (.signal "xyz.openbmc_project.State.Host.HostState.Running") meetsBouncing,
    .monitor true (.inherited (.tick 91000000000)),
    .monitor true (.inherited .timerExpires),
    .monitor true (.timerHandler ⟨silentPeci, 0, 0, ⟨0, 0, 0, 0⟩⟩),
    .deliver (.reply ⟨0⟩ hostStateOff) meetsBouncing,
    .deliver (.signal "xyz.openbmc_project.State.Host.HostState.Running") meetsBouncing]

/-- Every time that the host turns on it does so with a signal, so the SMI signal is
watched in both periods. -/
theorem process_assertions_watched_twice :
    (smiAndPresence.process.exec ({}, []) turnsOnTwice).isSome = true ∧
    smiAndPresence.process.Always (fun c => ∀ k (polls : PollsAs (smiAndPresence.cls k)) t,
      c.1.monitors k = some t → AssertionWatched (polls.base t, polls.events (eventsOf k c.2)))
      ({}, []) turnsOnTwice :=
  ⟨by decide, process_assertions_watched smiAndPresence turnsOnTwice (by decide)⟩

end HostErrorMonitor.Guarantees
