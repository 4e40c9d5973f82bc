import HostErrorMonitor.Guarantees.HostOn
import HostErrorMonitor.Spec.MonitorProcess

/-!
# How the process starts its monitors and notifies them

Whatever monitors the template lists, all exist and are valid once one delivery
has been recorded, each constructed once and before anything else happens to it,
and each is notified as often as the host state says. So the only delivery that
the process does not survive is one at which a constructor leaves its monitor
invalid.
-/
namespace HostErrorMonitor.Guarantees
open HostErrorMonitor.Source HostErrorMonitor.Spec Reactive
open Monitors hiding sendHostOn checkMonitors

variable {κ : Type} [DecidableEq κ] {ms : Monitors κ}

/-- A delivery constructs the monitors exactly when it is the first that is recorded. -/
theorem starts_iff {s s' : HostState} {i : HostInput} {out : List HostEffect}
    (step : hostMachine.step s i = some (s', out)) :
    (.startMonitors ∈ out ↔ s.initialized = false ∧ (reported i).isSome = true) ∧
      s'.initialized = (s.initialized || (reported i).isSome) ∧
      ∀ state, reported i = some state → s'.hostOff = (state == hostStateOff) := by
  rcases host_step_cases step with ⟨ec, property, rfl, failed, rfl, rfl⟩ |
    ⟨ec, property, rfl, ok, rfl, rfl⟩ | ⟨state, rfl, rfl, rfl⟩
  · simp [reported, failed]
  · cases before : s.initialized <;> simp [reported, ok]
  · cases before : s.initialized <;> by_cases off : state = hostStateOff <;> simp [reported, off]

/-- The monitor exists once the monitors are started, and is valid. -/
structure Ready (k : κ) (s : MonitorProcess ms) : Prop where
  started : (s.monitors k).isSome = s.host.initialized
  valid : ∀ t, s.monitors k = some t → (ms.cls k).isValid t = true

theorem ready_step {k : κ} {s s' : MonitorProcess ms} {i : ProcessInput ms}
    {out : List (ProcessEvent ms)} (ready : Ready k s) (step : ms.process.step s i = some (s', out)) :
    Ready k s' := by
  cases member_step step k with
  | delivered j meets effects handled announced told checked =>
    obtain ⟨starts, initialized, _⟩ := starts_iff handled
    by_cases first : .startMonitors ∈ effects
    · -- `init` has checked it
      obtain ⟨t, present, valid⟩ := (Option.any_eq_true _ _).mp (checked first)
      obtain ⟨_, recorded⟩ := starts.mp first
      refine ⟨by rw [present, initialized, recorded, Bool.or_true]; rfl, fun t' result => ?_⟩
      rw [present] at result
      cases result
      exact valid
    · have kept : s'.host.initialized = s.host.initialized := by
        rw [initialized]
        cases before : s.host.initialized with
        | true => rfl
        | false =>
          cases recorded : (reported j).isSome with
          | false => rfl
          | true => exact absurd (starts.mpr ⟨before, recorded⟩) first
      have records : recordedIn (ms.cls k) s'.host effects (s.monitors k) =
          ((s.monitors k).map ((ms.cls k).hostState (hostIsOff s'.host)), []) := if_neg first
      have valid : ∀ t, (s.monitors k).map ((ms.cls k).hostState (hostIsOff s'.host)) = some t →
          (ms.cls k).isValid t = true := by
        intro t result
        obtain ⟨t₀, present, rfl⟩ := Option.map_eq_some_iff.mp result
        rw [(ms.cls k).hostState_valid]
        exact ready.valid t₀ present
      rcases told_cases told with ⟨_, same⟩ | ⟨_, t, t', events, present, called, result, _⟩
      · rw [records] at same
        obtain ⟨reached, _⟩ := Prod.mk.inj same
        refine ⟨?_, fun t result => valid t (reached.trans result)⟩
        rw [← reached, Option.isSome_map, kept]
        exact ready.started
      · rw [records] at present
        obtain ⟨t₀, before, _⟩ := Option.map_eq_some_iff.mp present
        refine ⟨?_, fun t'' same => ?_⟩
        · rw [result, kept, ← ready.started, before]
          rfl
        · rw [result] at same
          cases same
          rw [(ms.cls k).hostOn_valid _ _ _ _ called]
          exact valid t present
  | own j same silent stepped =>
    rcases MonitorClass.pointer_step_cases stepped with ⟨_, h, _⟩ | ⟨_, h, _⟩ | ⟨_, _, _, _, h, _⟩ |
      ⟨j', t, t', events, h, present, moved, result, _⟩
    · cases h
    · cases h
    · cases h
    · refine ⟨?_, fun t'' again => ?_⟩
      · rw [result, same, ← ready.started, present]
        rfl
      · rw [result] at again
        cases again
        rw [(ms.cls k).own_valid _ _ _ _ moved]
        exact ready.valid t present
  | other j i apart same silent kept none =>
    refine ⟨by rw [kept, same]; exact ready.started, ?_⟩
    rw [kept]
    exact ready.valid

theorem ready_of_run {is : List (ProcessInput ms)} {c : MonitorProcess ms × List (ProcessEvent ms)}
    (run : ms.process.exec ({}, []) is = some c) (k : κ) : Ready k c.1 := by
  refine ms.process.invariant (I := fun c => Ready k c.1) (fun c i c' ready _ next => ?_) ?_
    (ms.process.along_true _ is) run
  · obtain ⟨s', out, step, rfl⟩ := ms.process.next_some.mp next
    exact ready_step ready step
  · exact ⟨rfl, fun t none => by cases none⟩

/-- The delivery is the first that is recorded, and a constructor that reads it leaves
its monitor invalid. -/
def FailsToStart (s : MonitorProcess ms) (i : HostInput) : Prop :=
  s.host.initialized = false ∧ ∃ state, reported i = some state ∧
    ∃ k, (ms.cls k).isValid ((ms.cls k).construct (state == hostStateOff)).1 = false

omit [DecidableEq κ] in
/-- Where no constructor fails, the monitors that are constructed or notified are valid. -/
theorem recordedIn_valid {k : κ} {s : MonitorProcess ms} {host : HostState} {i : HostInput}
    {effects : List HostEffect} (ready : Ready k s) (starts : ¬ FailsToStart s i)
    (handled : hostMachine.step s.host i = some (host, effects))
    (needed : .startMonitors ∈ effects ∨ .sendHostOn ∈ effects) :
    (recordedIn (ms.cls k) host effects (s.monitors k)).1.any (ms.cls k).isValid = true := by
  obtain ⟨first, _, written⟩ := starts_iff handled
  unfold recordedIn
  split
  next constructs =>
    obtain ⟨fresh, recorded⟩ := first.mp constructs
    obtain ⟨state, same⟩ := Option.isSome_iff_exists.mp recorded
    have off : hostIsOff host = (state == hostStateOff) := written state same
    cases valid : (ms.cls k).isValid ((ms.cls k).construct (hostIsOff host)).1 with
    | true => exact valid
    | false =>
      rw [off] at valid
      exact absurd ⟨fresh, state, same, k, valid⟩ starts
  next constructed =>
    have notified := needed.resolve_left constructed
    have recorded : (reported i).isSome = true := by
      rcases host_step_cases handled with ⟨_, _, _, _, _, rfl⟩ | ⟨_, _, _, _, _, rfl⟩ |
        ⟨state, rfl, _⟩
      · cases notified
      · cases before : s.host.initialized <;> simp [before] at notified
      · rfl
    have before : s.host.initialized = true := by
      cases fresh : s.host.initialized with
      | true => rfl
      | false => exact absurd (first.mpr ⟨fresh, recorded⟩) constructed
    obtain ⟨t, present⟩ := Option.isSome_iff_exists.mp (ready.started.trans before)
    simp only [present, Option.map_some, Option.any_some]
    rw [(ms.cls k).hostState_valid]
    exact ready.valid t present

/-- The monitors when a delivery has recorded the host state. -/
theorem recorded_all (ms : Monitors κ) (host : HostState) (effects : List HostEffect)
    (monitors : ∀ k, Option (ms.cls k).State) :
    ∃ monitors' started, execAll ms.pointers (fun k => recording (ms.cls k) host effects) ms.order
        monitors = some (monitors', started) ∧
      ∀ k, monitors' k = (recordedIn (ms.cls k) host effects (monitors k)).1 := by
  obtain ⟨monitors', started, recorded⟩ := execAll_total (m := ms.pointers) ms.once
    fun k _ => ⟨_, recording_exec (ms.cls k) host effects (monitors k)⟩
  refine ⟨monitors', started, recorded, fun k => ?_⟩
  have told := execAll_part recorded ms.once (ms.all k)
  have same := told.symm.trans (recording_exec (ms.cls k) host effects (monitors k))
  exact congrArg (·.1) (Option.some.inj same)

/-- Valid monitors can all be notified. -/
theorem notified_all (ms : Monitors κ) (effects : List HostEffect)
    (meets : ∀ k, (ms.cls k).Meets) (monitors : ∀ k, Option (ms.cls k).State)
    (valid : .sendHostOn ∈ effects → ∀ k, (monitors k).any (ms.cls k).isValid = true) :
    ∃ monitors' notified, execAll ms.pointers
      (fun k => Monitors.sendHostOn (ms.cls k) effects (meets k)) ms.order monitors =
        some (monitors', notified) := by
  apply execAll_total ms.once
  intro k _
  unfold Monitors.sendHostOn
  split
  next sent =>
    obtain ⟨t, present, valid⟩ := (Option.any_eq_true _ _).mp (valid sent k)
    obtain ⟨t', out, called⟩ := (ms.cls k).hostOn_total (meets k) t valid
    refine ⟨(some t', .hostOn :: out.map .event), ?_⟩
    simp [Machine.exec, Machine.next, pointers, MonitorClass.pointer, present, called]
  next => exact ⟨(monitors k, []), rfl⟩

theorem deliver_none_iff {s : MonitorProcess ms} (ready : ∀ k, Ready k s) (i : HostInput)
    (meets : ∀ k, (ms.cls k).Meets) :
    ms.process.step s (.deliver i meets) = none ↔ FailsToStart s i := by
  obtain ⟨host, effects, handled⟩ := host_step_total s.host i
  obtain ⟨monitors, started, recorded, reached⟩ := recorded_all ms host effects s.monitors
  rw [deliver_eq handled recorded]
  constructor
  · intro ends
    by_contra starts
    have valid : .startMonitors ∈ effects ∨ .sendHostOn ∈ effects →
        ∀ k, (monitors k).any (ms.cls k).isValid = true := by
      intro needed k
      rw [reached]
      exact recordedIn_valid (ready k) starts handled needed
    have passed : ¬ (.startMonitors ∈ effects ∧ ms.checkMonitors monitors = false) := by
      rintro ⟨constructs, failed⟩
      have all : ms.checkMonitors monitors = true :=
        List.all_eq_true.mpr fun k _ => valid (Or.inl constructs) k
      rw [all] at failed
      cases failed
    obtain ⟨monitors', notified, called⟩ := notified_all ms effects meets monitors
      fun sent => valid (Or.inr sent)
    rw [if_neg passed, called] at ends
    cases ends
  · rintro ⟨fresh, state, same, k, invalid⟩
    obtain ⟨first, _, written⟩ := starts_iff handled
    have constructs : .startMonitors ∈ effects := first.mpr ⟨fresh, by rw [same]; rfl⟩
    have failed : ms.checkMonitors monitors = false := by
      rw [Monitors.checkMonitors, List.all_eq_false]
      refine ⟨k, ms.all k, ?_⟩
      have off : hostIsOff host = (state == hostStateOff) := written state same
      rw [reached, recordedIn, if_pos constructs, Option.any_some, off, invalid]
      exact Bool.false_ne_true
    exact if_pos ⟨constructs, failed⟩

/-- In every state of every run all monitors exist or none does, and the only delivery
that the process does not survive is the first that is recorded, where a constructor
leaves its monitor invalid: no `hostOn` is called through a null pointer, and none
reads a line that was not requested. -/
theorem deliveries_survived (ms : Monitors κ) (is : List (ProcessInput ms)) :
    ms.process.Always (fun c =>
      (∀ k, (c.1.monitors k).isSome = c.1.host.initialized) ∧
      ∀ i meets, ms.process.step c.1 (.deliver i meets) = none ↔ FailsToStart c.1 i) ({}, []) is := by
  intro pre post c _ run
  have ready := ready_of_run run
  exact ⟨fun k => (ready k).started, fun i meets => deliver_none_iff ready i meets⟩

def isConstructed {ε : Type} : MemberEvent ε → Bool
  | .constructed => true
  | _ => false

def isNotified {ε : Type} : MemberEvent ε → Bool
  | .hostOn => true
  | _ => false

/-- The events of a monitor begin with its construction, and mark each notification. -/
structure Notified (k : κ) (c : MonitorProcess ms × List (ProcessEvent ms)) : Prop where
  once : (eventsOf k c.2).countP isConstructed = c.1.host.initialized.toNat
  each : (eventsOf k c.2).countP isNotified = (hostEffects c.2).count .sendHostOn
  first : ∀ event, (eventsOf k c.2).head? = some event → event = .constructed

theorem countP_event {ε : Type} {p : MemberEvent ε → Bool} (unmarked : ∀ e, p (.event e) = false)
    (events : List ε) : (events.map MemberEvent.event).countP p = 0 :=
  countP_map_unmarked unmarked events

theorem sendHostOn_count {s s' : HostState} {i : HostInput} {out : List HostEffect}
    (step : hostMachine.step s i = some (s', out)) :
    out.count .sendHostOn = (decide (HostEffect.sendHostOn ∈ out)).toNat := by
  rcases host_step_cases step with ⟨_, _, _, _, _, rfl⟩ | ⟨_, _, _, _, _, rfl⟩ | ⟨state, _, _, rfl⟩
  · rfl
  · cases s.initialized <;> rfl
  · cases s.initialized <;> cases state == hostStateOff <;> rfl

/-- The marks that a delivery leaves on a monitor. -/
theorem marks_of_told {cls : MonitorClass} {host : HostState} {effects : List HostEffect}
    {meets : cls.Meets} {s s' : Option cls.State} {out : List (MemberEvent cls.Event)}
    (told : cls.pointer.exec (s, [])
      (recording cls host effects ++ Monitors.sendHostOn cls effects meets) = some (s', out)) :
    out.countP isConstructed = (decide (HostEffect.startMonitors ∈ effects)).toNat ∧
      out.countP isNotified = (decide (HostEffect.sendHostOn ∈ effects)).toNat ∧
      (.startMonitors ∈ effects → out.head? = some .constructed) ∧
      (.startMonitors ∉ effects → s = none → out = []) := by
  have recorded : (recordedIn cls host effects s).2.countP isConstructed =
        (decide (HostEffect.startMonitors ∈ effects)).toNat ∧
      (recordedIn cls host effects s).2.countP isNotified = 0 ∧
      (.startMonitors ∈ effects → (recordedIn cls host effects s).2.head? = some .constructed) ∧
      (.startMonitors ∉ effects → recordedIn cls host effects s =
        (s.map (cls.hostState (hostIsOff host)), [])) := by
    unfold recordedIn
    split
    next starts =>
      refine ⟨?_, ?_, fun _ => rfl, fun absent => absurd starts absent⟩
      · rw [List.countP_cons_of_pos rfl, countP_event fun _ => rfl, decide_eq_true starts]
        rfl
      · rw [List.countP_cons_of_neg Bool.false_ne_true, countP_event fun _ => rfl]
    next absent =>
      refine ⟨?_, rfl, fun starts => absurd starts absent, fun _ => rfl⟩
      rw [decide_eq_false absent]
      rfl
  obtain ⟨constructs, silent, head, keeps⟩ := recorded
  rcases told_cases told with ⟨absent, same⟩ | ⟨sent, t, t', events, present, _, rfl, rfl⟩
  · rw [same] at constructs silent head keeps
    refine ⟨constructs, ?_, head, fun idle none => ?_⟩
    · rw [decide_eq_false absent]
      exact silent
    · exact congrArg (·.2) (keeps idle)
  · refine ⟨?_, ?_, fun starts => ?_, fun idle none => ?_⟩
    · rw [List.countP_append, constructs, List.countP_cons_of_neg Bool.false_ne_true,
        countP_event fun _ => rfl, Nat.add_zero]
    · rw [List.countP_append, silent, List.countP_cons_of_pos rfl, countP_event fun _ => rfl,
        decide_eq_true sent]
      rfl
    · rw [List.head?_append, head starts]
      rfl
    · rw [keeps idle, none] at present
      cases present

theorem initialized_count {s s' : HostState} {i : HostInput} {out : List HostEffect}
    (step : hostMachine.step s i = some (s', out)) :
    s'.initialized.toNat =
      s.initialized.toNat + (decide (HostEffect.startMonitors ∈ out)).toNat := by
  obtain ⟨starts, initialized, _⟩ := starts_iff step
  have first : decide (HostEffect.startMonitors ∈ out) = (!s.initialized && (reported i).isSome) := by
    rw [Bool.eq_iff_iff, decide_eq_true_iff, starts]
    simp
  rw [initialized, first]
  cases s.initialized <;> cases (reported i).isSome <;> rfl

theorem notified_step {k : κ} {c c' : MonitorProcess ms × List (ProcessEvent ms)}
    {i : ProcessInput ms} (ready : Ready k c.1) (before : Notified k c)
    (next : ms.process.next c i = some c') : Notified k c' := by
  obtain ⟨s', out, step, rfl⟩ := ms.process.next_some.mp next
  obtain ⟨once, each, first⟩ := before
  cases member_step step k with
  | delivered j meets effects handled announced told checked =>
    obtain ⟨constructs, notifies, head, silent⟩ := marks_of_told told
    refine ⟨?_, ?_, fun event leads => ?_⟩
    · rw [eventsOf_append, List.countP_append, once, constructs, initialized_count handled]
    · rw [eventsOf_append, hostEffects_append, List.countP_append, List.count_append, each, notifies,
        announced, sendHostOn_count handled]
    · rw [eventsOf_append, List.head?_append] at leads
      cases earlier : (eventsOf k c.2).head? with
      | some e =>
        rw [earlier] at leads
        cases leads
        exact first event earlier
      | none =>
        rw [earlier, Option.none_or] at leads
        by_cases starts : .startMonitors ∈ effects
        · rw [head starts] at leads
          exact (Option.some.inj leads).symm
        · -- nothing is constructed yet, so there is nothing to happen to
          have empty : eventsOf k c.2 = [] := List.head?_eq_none_iff.mp earlier
          have fresh : c.1.host.initialized = false := by
            rw [empty] at once
            exact Bool.toNat_eq_zero.mp once.symm
          have missing : c.1.monitors k = none := by
            rw [← Option.not_isSome_iff_eq_none, ready.started, fresh]
            exact Bool.false_ne_true
          rw [silent starts missing] at leads
          cases leads
  | own j same quiet stepped =>
    rcases MonitorClass.pointer_step_cases stepped with ⟨_, h, _⟩ | ⟨_, h, _⟩ | ⟨_, _, _, _, h, _⟩ |
      ⟨j', t, t', events, h, present, moved, result, traced⟩
    · cases h
    · cases h
    · cases h
    · refine ⟨?_, ?_, fun event leads => ?_⟩
      · rw [eventsOf_append, List.countP_append, once, traced, countP_event fun _ => rfl, same]
        rfl
      · rw [eventsOf_append, hostEffects_append, List.countP_append, each, traced,
          countP_event fun _ => rfl, quiet, List.append_nil]
        rfl
      · have started : c.1.host.initialized = true := by
          rw [← ready.started, present]
          rfl
        cases earlier : eventsOf k c.2 with
        | nil =>
          rw [earlier, started] at once
          cases once
        | cons e rest =>
          rw [eventsOf_append, earlier] at leads
          apply first
          rw [earlier]
          exact leads
  | other j i apart same quiet kept none =>
    have unseen : eventsOf k (c.2 ++ out) = eventsOf k c.2 := by
      rw [eventsOf_append, none, List.append_nil]
    have unsent : hostEffects (c.2 ++ out) = hostEffects c.2 := by
      rw [hostEffects_append, quiet, List.append_nil]
    exact ⟨by rw [unseen, once, same], by rw [unseen, unsent, each], by rw [unseen]; exact first⟩

theorem readyNotified_step {k : κ} {c c' : MonitorProcess ms × List (ProcessEvent ms)}
    {i : ProcessInput ms} (before : Ready k c.1 ∧ Notified k c)
    (next : ms.process.next c i = some c') : Ready k c'.1 ∧ Notified k c' := by
  refine ⟨?_, notified_step before.1 before.2 next⟩
  obtain ⟨s', out, step, rfl⟩ := ms.process.next_some.mp next
  exact ready_step before.1 step

theorem readyNotified_initial (k : κ) :
    Ready k ({} : MonitorProcess ms) ∧ Notified k (({}, []) : MonitorProcess ms × _) :=
  ⟨⟨rfl, fun _ none => nomatch none⟩, ⟨rfl, rfl, fun _ none => nomatch none⟩⟩

/-- In every state of every run each monitor has been constructed once if any delivery
has been recorded, before anything else happened to it, and it has been notified as
often as `sendHostOn` was called: no notification is lost, and none is repeated. -/
theorem notifications_delivered (ms : Monitors κ) (is : List (ProcessInput ms)) :
    ms.process.Always (fun c => ∀ k,
      (eventsOf k c.2).countP isConstructed = c.1.host.initialized.toNat ∧
      (eventsOf k c.2).countP isNotified = (hostEffects c.2).count .sendHostOn ∧
      ∀ event, (eventsOf k c.2).head? = some event → event = .constructed) ({}, []) is := by
  intro pre post c _ run k
  have both : Ready k c.1 ∧ Notified k c :=
    ms.process.invariant (I := fun c => Ready k c.1 ∧ Notified k c)
      (fun _ _ _ before _ next => readyNotified_step before next) (readyNotified_initial k)
      (ms.process.along_true _ pre) run
  exact ⟨both.2.once, both.2.each, both.2.first⟩

/-- What a monitor is to a property of its state, the events of its class, and the
number of its notifications. -/
def Kept (k : κ) (I : (ms.cls k).State → List (ms.cls k).Event → Nat → Prop)
    (c : MonitorProcess ms × List (ProcessEvent ms)) : Prop :=
  ∀ s, c.1.monitors k = some s → I s (ownEvents (eventsOf k c.2)) ((hostEffects c.2).count .sendHostOn)

/-- What the constructor of a monitor establishes, and what its operations keep. -/
structure Keeps (cls : MonitorClass) (I : cls.State → List cls.Event → Nat → Prop) : Prop where
  constructed : ∀ off, cls.isValid (cls.construct off).1 = true →
    I (cls.construct off).1 (cls.construct off).2 0
  hostState : ∀ off s tr n, I s tr n → I (cls.hostState off s) tr n
  notified : ∀ w s s' out tr n, I s tr n → cls.hostOn w s = some (s', out) → I s' (tr ++ out) (n + 1)
  own : ∀ s i s' out tr n, I s tr n → cls.own.step s i = some (s', out) → I s' (tr ++ out) n

/-- Before any delivery has been recorded nothing has happened to a monitor. -/
theorem fresh_silent {k : κ} {c : MonitorProcess ms × List (ProcessEvent ms)}
    (notified : Notified k c) (fresh : c.1.host.initialized = false) :
    eventsOf k c.2 = [] ∧ (hostEffects c.2).count .sendHostOn = 0 := by
  have none : eventsOf k c.2 = [] := by
    have once := notified.once
    have first := notified.first
    rw [fresh] at once
    cases events : eventsOf k c.2 with
    | nil => rfl
    | cons e rest =>
      rw [events] at once first
      rw [first e rfl, List.countP_cons_of_pos rfl] at once
      exact absurd once (Nat.succ_ne_zero _)
  refine ⟨none, ?_⟩
  rw [← notified.each, none]
  rfl

/-- A monitor when a delivery has recorded the host state and `init` has checked it. -/
theorem kept_recorded {k : κ} {I : (ms.cls k).State → List (ms.cls k).Event → Nat → Prop}
    (keeps : Keeps (ms.cls k) I) {c : MonitorProcess ms × List (ProcessEvent ms)} {i : HostInput}
    {host : HostState} {effects : List HostEffect} (notified : Notified k c) (before : Kept k I c)
    (handled : hostMachine.step c.1.host i = some (host, effects)) {t : (ms.cls k).State}
    (present : (recordedIn (ms.cls k) host effects (c.1.monitors k)).1 = some t)
    (valid : .startMonitors ∈ effects → (ms.cls k).isValid t = true) :
    I t (ownEvents (eventsOf k c.2) ++
      ownEvents (recordedIn (ms.cls k) host effects (c.1.monitors k)).2)
      ((hostEffects c.2).count .sendHostOn) := by
  by_cases starts : .startMonitors ∈ effects
  · have constructs : recordedIn (ms.cls k) host effects (c.1.monitors k) =
        (some ((ms.cls k).construct (hostIsOff host)).1,
          .constructed :: ((ms.cls k).construct (hostIsOff host)).2.map .event) := if_pos starts
    obtain ⟨none, unsent⟩ := fresh_silent notified ((starts_iff handled).1.mp starts).1
    rw [constructs] at present ⊢
    cases present
    rw [none, unsent]
    have built := keeps.constructed _ (valid starts)
    rwa [← ownEvents_event ((ms.cls k).construct (hostIsOff host)).2] at built
  · have keepsPointer : recordedIn (ms.cls k) host effects (c.1.monitors k) =
        ((c.1.monitors k).map ((ms.cls k).hostState (hostIsOff host)), []) := if_neg starts
    rw [keepsPointer] at present ⊢
    obtain ⟨s₀, was, rfl⟩ := Option.map_eq_some_iff.mp present
    have same := keeps.hostState (hostIsOff host) s₀ _ _ (before s₀ was)
    simpa [ownEvents] using same

theorem kept_step {k : κ} {I : (ms.cls k).State → List (ms.cls k).Event → Nat → Prop}
    (keeps : Keeps (ms.cls k) I) {c c' : MonitorProcess ms × List (ProcessEvent ms)}
    {i : ProcessInput ms} (both : Ready k c.1 ∧ Notified k c) (before : Kept k I c)
    (next : ms.process.next c i = some c') : Kept k I c' := by
  obtain ⟨s', out, step, rfl⟩ := ms.process.next_some.mp next
  intro t present
  rw [eventsOf_append, hostEffects_append, ownEvents_append, List.count_append]
  cases member_step step k with
  | delivered j meets effects handled announced told checked =>
    rw [announced, sendHostOn_count handled]
    have valid : .startMonitors ∈ effects → (ms.cls k).isValid t = true := by
      intro starts
      have passed := checked starts
      rwa [present] at passed
    rcases told_cases told with ⟨unsent, same⟩ | ⟨sent, t₁, t', events, reached, called, result, traced⟩
    · have pointer := congrArg Prod.fst same
      have trace := congrArg Prod.snd same
      rw [decide_eq_false unsent]
      have kept := kept_recorded keeps both.2 before handled (pointer.trans present) valid
      rwa [trace] at kept
    · rw [present] at result
      cases result
      have was : .startMonitors ∈ effects → (ms.cls k).isValid t₁ = true := by
        intro starts
        rw [← (ms.cls k).hostOn_valid _ _ _ _ called]
        exact valid starts
      have kept := kept_recorded keeps both.2 before handled reached was
      have notified := keeps.notified _ _ _ _ _ _ kept called
      rw [decide_eq_true sent, traced, ownEvents_append]
      have marked : ownEvents (.hostOn :: events.map .event) = events := ownEvents_event events
      rwa [marked, ← List.append_assoc]
  | own j same quiet stepped =>
    rw [quiet]
    rcases MonitorClass.pointer_step_cases stepped with ⟨_, h, _⟩ | ⟨_, h, _⟩ | ⟨_, _, _, _, h, _⟩ |
      ⟨j', t₀, t', events, h, was, moved, result, traced⟩
    · cases h
    · cases h
    · cases h
    · rw [present] at result
      cases result
      rw [traced, ownEvents_event]
      exact keeps.own t₀ j' t events _ _ (before t₀ was) moved
  | other j i apart same quiet kept none =>
    rw [none, quiet]
    simpa [ownEvents] using before t (kept.symm.trans present)

/-- Member rule: what its constructor establishes and its operations keep holds of a
monitor in every state of every run of the process, whichever monitors run beside it. -/
theorem always_kept {k : κ} {I : (ms.cls k).State → List (ms.cls k).Event → Nat → Prop}
    (keeps : Keeps (ms.cls k) I) (is : List (ProcessInput ms)) :
    ms.process.Always (Kept k I) ({}, []) is := by
  refine ms.process.always_of_invariant (I := fun c => (Ready k c.1 ∧ Notified k c) ∧ Kept k I c)
    (fun c i c' before _ next => ?_) (fun c before => before.2) ?_ (ms.process.along_true _ is)
  · exact ⟨readyNotified_step before.1 next, kept_step keeps before.1 before.2 next⟩
  · exact ⟨readyNotified_initial k, fun _ none => nomatch none⟩

end HostErrorMonitor.Guarantees
