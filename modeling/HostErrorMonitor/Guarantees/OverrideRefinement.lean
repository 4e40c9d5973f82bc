import HostErrorMonitor.Guarantees.DerivedPolling
import HostErrorMonitor.Reactive.Composition
import HostErrorMonitor.Source.SmiMonitor

/-!
# What overriding leaves of the inherited class

A derived monitor runs the functions of its base, with its own handlers at the
virtual calls. Forgetting what the handlers do, each of its runs is a run of the
base (`derived_refines_base`); where an override calls the function that it
overrides, each run is one of the class in between (`Extends`). So what holds of
every run of a class holds of the classes that derive from it.
-/
namespace HostErrorMonitor.Guarantees
open HostErrorMonitor.Source HostErrorMonitor.Source.DerivedMonitor Reactive
open BaseGPIOPollMonitor (asserted edges elapse)

variable {σ ε : Type} {o : PollOverrides σ ε} {cfg : PollConfig}

def baseEvent : DerivedEvent ε → Option PollEvent
  | .base event => some event
  | _ => none

/-- The events of the base in the trace of a derived monitor. -/
def baseEvents (tr : List (DerivedEvent ε)) : List PollEvent := tr.filterMap baseEvent

theorem baseEvents_append (tr out : List (DerivedEvent ε)) :
    baseEvents (tr ++ out) = baseEvents tr ++ baseEvents out := List.filterMap_append

@[simp] theorem baseEvents_base (events : List PollEvent) :
    baseEvents (events.map (DerivedEvent.base (ε := ε))) = events := by
  unfold baseEvents
  rw [List.filterMap_map]
  exact List.filterMap_some

@[simp] theorem baseEvents_own (effects : List ε) : baseEvents (effects.map .own) = [] := by
  unfold baseEvents
  rw [List.filterMap_map, List.filterMap_eq_nil_iff]
  intro effect _
  rfl

theorem baseEvents_dispatchAll (peci : Peci) (own : σ) (events : List PollEvent) :
    baseEvents (dispatchAll o peci own events).2 = events := by
  induction events generalizing own with
  | nil => rfl
  | cons event events ih =>
    have here : baseEvents (dispatch o peci own event).2 = [event] := by
      cases event with
      | assertHandler now timeoutMs => exact congrArg (_ :: ·) (baseEvents_own _)
      | deassertHandler => exact congrArg (_ :: ·) (baseEvents_own _)
      | _ => rfl
    simp only [dispatchAll, baseEvents_append, here, ih, List.singleton_append]

theorem baseEvents_poll (w : Surroundings) (m : DerivedMonitor σ) :
    baseEvents (poll o cfg w m).2 = (BaseGPIOPollMonitor.poll cfg w.poll m.base).2 := by
  show baseEvents (dispatchAll o w.peci m.own (BaseGPIOPollMonitor.poll cfg w.poll m.base).2).2 = _
  exact baseEvents_dispatchAll w.peci m.own _

theorem baseEvents_startPolling (w : Surroundings) (m : DerivedMonitor σ) :
    baseEvents (startPolling o cfg w m).2 = List.replicate w.edges .edge ++
      (BaseGPIOPollMonitor.startPolling cfg w.poll (meanwhile w m.base)).2 := by
  have moved : List.replicate w.edges (DerivedEvent.base (ε := ε) .edge) =
      (List.replicate w.edges PollEvent.edge).map .base := by rw [List.map_replicate]
  have called : baseEvents [DerivedEvent.startPolling (ε := ε) (asserted m.base)] = [] := rfl
  simp only [startPolling]
  rw [moved, ← List.singleton_append, baseEvents_append, baseEvents_append, baseEvents_append,
    called, baseEvents_own, baseEvents_base, baseEvents_dispatchAll, List.nil_append,
    List.nil_append]

/-- The same events, but that a `hostOn` may stand before other edges. -/
structure Reordered (tr tr' : List PollEvent) : Prop where
  apartFromHostOn : tr.filter (· != .hostOn) = tr'.filter (· != .hostOn)
  apartFromEdges : tr.filter (· != .edge) = tr'.filter (· != .edge)

theorem reordered_refl (tr : List PollEvent) : Reordered tr tr := ⟨rfl, rfl⟩

theorem reordered_append {tr tr' out out' : List PollEvent} (before : Reordered tr tr')
    (after : Reordered out out') : Reordered (tr ++ out) (tr' ++ out') := by
  constructor
  · rw [List.filter_append, List.filter_append, before.apartFromHostOn, after.apartFromHostOn]
  · rw [List.filter_append, List.filter_append, before.apartFromEdges, after.apartFromEdges]

theorem reordered_hostOn (n : Nat) (events : List PollEvent) :
    Reordered (.hostOn :: (List.replicate n .edge ++ events))
      (List.replicate n .edge ++ .hostOn :: events) := by
  constructor
  · simp
  · simp

/-- The edges that come while an override of `startPolling` runs. -/
def overrideEdges : DerivedInput → Nat
  | .hostOn w => w.edges
  | .hostTurnsOn w => w.edges
  | .eventHandler w => w.edges
  | .inherited _ => 0
  | .timerHandler _ => 0

/-- To the base, what happens while an override of `startPolling` runs comes first. -/
def beforeCall : DerivedInput → List PollInput
  | .hostOn w => List.replicate w.edges .edge ++ [.tick w.delay]
  | .hostTurnsOn w => List.replicate w.edges .edge ++ [.tick w.delay]
  | .eventHandler w => List.replicate w.edges .edge ++ [.tick w.delay]
  | .inherited _ => []
  | .timerHandler _ => []

/-- The inputs of the base that a step answers. -/
def baseInputs (i : DerivedInput) : List PollInput := beforeCall i ++ [i.toBase]

theorem edges_edges (first last : Nat) (s : BaseGPIOPollMonitor) :
    edges last (edges first s) = edges (first + last) s := by
  have parity : ((s.line ^^ (first % 2 == 1)) ^^ (last % 2 == 1)) =
      (s.line ^^ ((first + last) % 2 == 1)) := by
    rw [Bool.xor_assoc, Nat.add_mod]
    rcases Nat.mod_two_eq_zero_or_one first with a | a <;>
      rcases Nat.mod_two_eq_zero_or_one last with b | b <;> simp [a, b]
  simp only [edges, parity, Nat.add_assoc]

theorem exec_edges (n : Nat) (s : BaseGPIOPollMonitor) (tr : List PollEvent) :
    (pollMachine cfg).exec (s, tr) (List.replicate n .edge) =
      some (edges n s, tr ++ List.replicate n .edge) := by
  induction n generalizing s tr with
  | zero => simp [edges]
  | succ n ih =>
    rw [List.replicate_succ, List.replicate_succ]
    refine (pollMachine cfg).exec_cons.mpr ⟨(edges 1 s, tr ++ [.edge]), rfl, ?_⟩
    rw [ih, edges_edges, Nat.add_comm 1 n, List.append_assoc, List.singleton_append]

theorem exec_beforeCall (i : DerivedInput) (s : BaseGPIOPollMonitor) (tr : List PollEvent) :
    (pollMachine cfg).exec (s, tr) (beforeCall i) =
      some (i.entered s, tr ++ List.replicate (overrideEdges i) .edge) := by
  have called : ∀ w : Surroundings, (pollMachine cfg).exec (s, tr)
      (List.replicate w.edges .edge ++ [.tick w.delay]) =
        some (meanwhile w s, tr ++ List.replicate w.edges .edge) := by
    intro w
    refine (pollMachine cfg).exec_concat.mpr ⟨_, exec_edges w.edges s tr, ?_⟩
    exact (pollMachine cfg).next_some.mpr ⟨_, [], rfl, by rw [List.append_nil]; rfl⟩
  cases i with
  | inherited j => simp [beforeCall, overrideEdges, DerivedInput.entered]
  | timerHandler w => simp [beforeCall, overrideEdges, DerivedInput.entered]
  | hostOn w => exact called w
  | hostTurnsOn w => exact called w
  | eventHandler w => exact called w

def isHostOn : DerivedInput → Bool
  | .hostOn _ => true
  | .hostTurnsOn _ => true
  | _ => false

/-- A step that is no `hostOn` is the base's own step, with the same events. -/
theorem derived_step_same {m m' : DerivedMonitor σ} {i : DerivedInput}
    {out : List (DerivedEvent ε)} (apart : isHostOn i = false)
    (step : (derivedMachine o cfg).step m i = some (m', out)) :
    ∃ events, (pollMachine cfg).step (i.entered m.base) i.toBase = some (m'.base, events) ∧
      baseEvents out = List.replicate (overrideEdges i) .edge ++ events := by
  cases i with
  | inherited j =>
    simp only [derivedMachine] at step
    split at step
    · cases step
    · split at step
      · cases step
      next base events answered =>
        cases step
        exact ⟨events, answered, baseEvents_base events⟩
  | hostOn w => cases apart
  | hostTurnsOn w => cases apart
  | eventHandler w =>
    simp only [derivedMachine] at step
    split at step
    next queued =>
      have result := Option.some.inj step
      have reached : m'.base = (startPolling o cfg w
          { m with base := { m.base with eventReady := m.base.eventReady - 1 } }).1.base := by
        rw [result]
      refine ⟨(BaseGPIOPollMonitor.startPolling cfg w.poll
        (meanwhile w { m.base with eventReady := m.base.eventReady - 1 })).2, ?_, ?_⟩
      · exact (if_pos queued).trans (by rw [reached]; rfl)
      · have events : baseEvents out = baseEvents (startPolling o cfg w
            { m with base := { m.base with eventReady := m.base.eventReady - 1 } }).2 := by
          rw [result]
        rw [events, baseEvents_startPolling]
        rfl
    · cases step
  | timerHandler w =>
    simp only [derivedMachine] at step
    split at step
    next queued =>
      have result := Option.some.inj step
      have reached : m'.base = (poll o cfg w
          { m with base := { m.base with timerReady := m.base.timerReady - 1 } }).1.base := by
        rw [result]
      refine ⟨(BaseGPIOPollMonitor.poll cfg w.poll
        { m.base with timerReady := m.base.timerReady - 1 }).2, ?_, ?_⟩
      · exact (if_pos queued).trans (by rw [reached]; rfl)
      · have events : baseEvents out = baseEvents (poll o cfg w
            { m with base := { m.base with timerReady := m.base.timerReady - 1 } }).2 := by
          rw [result]
        rw [events, baseEvents_poll]
        rfl
    · cases step

/-- A step of a derived monitor is the base's own step, with the same events, but that
the edges before the base's `hostOn` come after it. -/
theorem derived_step_events {m m' : DerivedMonitor σ} {i : DerivedInput}
    {out : List (DerivedEvent ε)} (step : (derivedMachine o cfg).step m i = some (m', out)) :
    ∃ events, (pollMachine cfg).step (i.entered m.base) i.toBase = some (m'.base, events) ∧
      Reordered (baseEvents out) (List.replicate (overrideEdges i) .edge ++ events) := by
  cases apart : isHostOn i with
  | false =>
    obtain ⟨events, answered, same⟩ := derived_step_same apart step
    exact ⟨events, answered, by rw [same]; exact reordered_refl _⟩
  | true =>
    cases i with
    | inherited j => cases apart
    | eventHandler w => cases apart
    | timerHandler w => cases apart
    | hostOn w =>
      have result := Option.some.inj step
      have events := @baseEvents_startPolling σ ε o cfg w
        { m with base := { m.base with eventWaits := 0 } }
      have reached : m'.base = (DerivedMonitor.hostOn o cfg w m).1.base := by rw [result]
      refine ⟨_, by rw [reached]; rfl, ?_⟩
      have called : baseEvents out = .hostOn ::
          baseEvents (startPolling o cfg w { m with base := { m.base with eventWaits := 0 } }).2 :=
        congrArg (fun r => baseEvents r.2) result.symm
      rw [called, events]
      exact reordered_hostOn _ _
    | hostTurnsOn w =>
      have result := Option.some.inj step
      have events := @baseEvents_startPolling σ ε o cfg w
        { m with base := { m.base with hostOff := false, eventWaits := 0 } }
      have reached : m'.base = (DerivedMonitor.hostOn o cfg w
          { m with base := { m.base with hostOff := false } }).1.base := by rw [result]
      refine ⟨_, by rw [reached]; rfl, ?_⟩
      have called : baseEvents out = .hostOn :: baseEvents (startPolling o cfg w
          { m with base := { m.base with hostOff := false, eventWaits := 0 } }).2 :=
        congrArg (fun r => baseEvents r.2) result.symm
      rw [called, events]
      exact reordered_hostOn _ _

/-- The base as its own constructor calls `startPolling`: what happens while the
override of it runs is over. -/
def startedBase (l : ValidPollLine) (timeoutMs : Nat) : ValidMonitor where
  setup := l.setup
  valid := l.valid
  timeoutMs := timeoutMs
  clock := l.clock + l.start.delay
  line := l.line ^^ (l.start.edges % 2 == 1)
  unread := l.unread + l.start.edges
  hostOff := l.hostOff
  env := l.start.poll

/-- The trace of a derived monitor, which begins before its base starts to poll,
is that of the base. -/
structure RefinesBase (l : ValidPollLine) (c : DerivedMonitor σ × List (DerivedEvent ε))
    (d : BaseGPIOPollMonitor × List PollEvent) : Prop where
  state : d.1 = c.1.base
  events : Reordered (baseEvents c.2) (List.replicate l.start.edges .edge ++ d.2)

theorem refinesBase_initial (l : ValidPollLine) (timeoutMs : Nat) (own : σ) :
    RefinesBase l (l.initial o cfg timeoutMs own) ((startedBase l timeoutMs).initial cfg) := by
  rw [ValidPollLine.initial_eq, ValidMonitor.initial_eq]
  refine ⟨rfl, ?_⟩
  rw [baseEvents_startPolling]
  exact reordered_refl _

theorem refinesBase_step {l : ValidPollLine} {c c' : DerivedMonitor σ × List (DerivedEvent ε)}
    {d : BaseGPIOPollMonitor × List PollEvent} {i : DerivedInput} (refines : RefinesBase l c d)
    (next : (derivedMachine o cfg).next c i = some c') :
    ∃ d', (pollMachine cfg).exec d (baseInputs i) = some d' ∧ RefinesBase l c' d' := by
  obtain ⟨m', out, step, rfl⟩ := (derivedMachine o cfg).next_some.mp next
  obtain ⟨events, answered, same⟩ := derived_step_events step
  obtain ⟨s, tr⟩ := d
  obtain ⟨rfl, before⟩ := refines
  refine ⟨(m'.base, tr ++ List.replicate (overrideEdges i) .edge ++ events), ?_, rfl, ?_⟩
  · refine (pollMachine cfg).exec_concat.mpr ⟨_, exec_beforeCall i c.1.base tr, ?_⟩
    exact (pollMachine cfg).next_some.mpr ⟨_, events, answered, rfl⟩
  · have both := reordered_append before same
    rw [← baseEvents_append] at both
    simpa using both

/-- Every run of a derived monitor is a run of its base, whatever the overrides do:
in the same states, and with the same events in the same order, but that the edges
which come while an override of `startPolling` runs come before the `hostOn` that
called it. -/
theorem derived_refines_base (o : PollOverrides σ ε) (cfg : PollConfig) (l : ValidPollLine)
    (timeoutMs : Nat) (own : σ) (is : List DerivedInput)
    (c : DerivedMonitor σ × List (DerivedEvent ε))
    (run : (derivedMachine o cfg).exec (l.initial o cfg timeoutMs own) is = some c) :
    ∃ d, (pollMachine cfg).exec ((startedBase l timeoutMs).initial cfg) (is.flatMap baseInputs) =
      some d ∧ RefinesBase l c d :=
  (derivedMachine o cfg).exec_project (pollMachine cfg) (RefinesBase l) baseInputs
    (fun _ _ _ _ refines next => refinesBase_step refines next)
    (refinesBase_initial l timeoutMs own) run

/-- No CPU answers. -/
def silentPeci : Peci where
  getCPUID _ := (.ccCpuNotPresent, .other 0)
  rdPkgConfig _ _ _ _ := ⟨.other 1, 0, 0⟩
  rdIAMSR _ _ _ := ⟨.other 1, 0, 0⟩
  rdPCIConfigLocal _ _ _ _ _ _ := ⟨.other 1, 0, 0⟩
  rdEndPointConfigPciLocal _ _ _ _ _ _ _ := ⟨.other 1, 0, 0⟩

/-- An edge comes while the override of `startPolling` runs, and one in the poll. -/
def bouncing : Surroundings := ⟨silentPeci, 1, 20, ⟨1, 0, 0, 0⟩⟩

/-- A signal is asserted when its monitor starts, with the host on. -/
def assertedLine : ValidPollLine where
  setup := assertedAtStart.setup
  valid := assertedAtStart.valid
  clock := 0
  line := true
  unread := 0
  hostOff := false
  start := bouncing

def smiConfig : PollConfig := SMIMonitor.config everySecond.intBits everySecond.intBits_ge

/-- An SMI timeout is reported after a `hostOn` that meets a bouncing signal. -/
def smiTimesOut : List DerivedInput :=
  [.hostOn bouncing, .inherited (.tick 91000000000), .inherited .timerExpires,
    .timerHandler bouncing]

theorem smi_report_refines_base : ∃ c d,
    (derivedMachine SMIMonitor.overrides smiConfig).exec
      (assertedLine.initial SMIMonitor.overrides smiConfig SMIMonitor.smiTimeoutMs ())
      smiTimesOut = some c ∧
    (pollMachine smiConfig).exec ((startedBase assertedLine SMIMonitor.smiTimeoutMs).initial smiConfig)
      (smiTimesOut.flatMap baseInputs) = some d ∧
    RefinesBase assertedLine c d := by
  obtain ⟨d, run, refines⟩ := derived_refines_base SMIMonitor.overrides smiConfig assertedLine
    SMIMonitor.smiTimeoutMs () smiTimesOut _ rfl
  exact ⟨_, d, rfl, run, refines⟩

section extension
variable {σ' ε' : Type} {o' : PollOverrides σ' ε'} {members : σ' → σ} {inherited : ε' → Option ε}

/-- The overrides `o'` call those of `o` on the members that they inherit, and do
more besides. -/
structure Extends (o' : PollOverrides σ' ε') (o : PollOverrides σ ε) (members : σ' → σ)
    (inherited : ε' → Option ε) : Prop where
  startPolling : ∀ peci m, o.startPolling peci (members m) =
    (members (o'.startPolling peci m).1, (o'.startPolling peci m).2.filterMap inherited)
  assertHandler : ∀ peci m, o.assertHandler peci (members m) =
    (members (o'.assertHandler peci m).1, (o'.assertHandler peci m).2.filterMap inherited)
  deassertHandler : ∀ m, o.deassertHandler (members m) =
    (members (o'.deassertHandler m).1, (o'.deassertHandler m).2.filterMap inherited)

/-- A monitor as the class in between sees it. -/
def inheritedPart (members : σ' → σ) (m : DerivedMonitor σ') : DerivedMonitor σ :=
  ⟨m.base, members m.own⟩

def inheritedEvent (inherited : ε' → Option ε) : DerivedEvent ε' → Option (DerivedEvent ε)
  | .startPolling level => some (.startPolling level)
  | .base event => some (.base event)
  | .own effect => (inherited effect).map .own

theorem inheritedEvent_base (events : List PollEvent) :
    (events.map DerivedEvent.base).filterMap (inheritedEvent inherited) = events.map .base := by
  have kept : inheritedEvent inherited ∘ DerivedEvent.base = some ∘ DerivedEvent.base := rfl
  rw [List.filterMap_map, kept, List.filterMap_eq_map]

theorem inheritedEvent_own (effects : List ε') :
    (effects.map DerivedEvent.own).filterMap (inheritedEvent inherited) =
      (effects.filterMap inherited).map .own := by
  rw [List.filterMap_map, List.map_filterMap]
  rfl

theorem extends_dispatch (ext : Extends o' o members inherited) (peci : Peci) (own : σ')
    (event : PollEvent) :
    dispatch o peci (members own) event = (members (dispatch o' peci own event).1,
      (dispatch o' peci own event).2.filterMap (inheritedEvent inherited)) := by
  cases event with
  | assertHandler now timeoutMs =>
    simp only [dispatch, ext.assertHandler, List.filterMap_cons, inheritedEvent, inheritedEvent_own]
  | deassertHandler =>
    simp only [dispatch, ext.deassertHandler, List.filterMap_cons, inheritedEvent, inheritedEvent_own]
  | _ => rfl

theorem extends_dispatchAll (ext : Extends o' o members inherited) (peci : Peci) (own : σ')
    (events : List PollEvent) :
    dispatchAll o peci (members own) events = (members (dispatchAll o' peci own events).1,
      (dispatchAll o' peci own events).2.filterMap (inheritedEvent inherited)) := by
  induction events generalizing own with
  | nil => rfl
  | cons event events ih =>
    simp only [dispatchAll, extends_dispatch ext, ih, List.filterMap_append]

theorem extends_poll (ext : Extends o' o members inherited) (w : Surroundings)
    (m : DerivedMonitor σ') :
    poll o cfg w (inheritedPart members m) = (inheritedPart members (poll o' cfg w m).1,
      (poll o' cfg w m).2.filterMap (inheritedEvent inherited)) := by
  simp only [poll, inheritedPart, extends_dispatchAll ext]

theorem extends_startPolling (ext : Extends o' o members inherited) (w : Surroundings)
    (m : DerivedMonitor σ') :
    startPolling o cfg w (inheritedPart members m) =
      (inheritedPart members (startPolling o' cfg w m).1,
        (startPolling o' cfg w m).2.filterMap (inheritedEvent inherited)) := by
  have moved : List.replicate w.edges (DerivedEvent.base (ε := ε) .edge) =
      (List.replicate w.edges (DerivedEvent.base (ε := ε') .edge)).filterMap
        (inheritedEvent inherited) := by
    rw [List.filterMap_replicate]
    rfl
  simp only [startPolling, inheritedPart, ext.startPolling, extends_dispatchAll ext,
    List.filterMap_append, List.filterMap_cons, inheritedEvent, inheritedEvent_own, moved]

theorem extends_step (ext : Extends o' o members inherited) {m m' : DerivedMonitor σ'}
    {i : DerivedInput} {out : List (DerivedEvent ε')}
    (step : (derivedMachine o' cfg).step m i = some (m', out)) :
    (derivedMachine o cfg).step (inheritedPart members m) i =
      some (inheritedPart members m', out.filterMap (inheritedEvent inherited)) := by
  cases i with
  | inherited j =>
    simp only [derivedMachine] at step ⊢
    split at step
    · cases step
    next own =>
      rw [if_neg own]
      split at step
      · cases step
      next base events answered =>
        cases step
        simp only [inheritedPart, answered, inheritedEvent_base]
  | hostOn w =>
    have result := Option.some.inj step
    have called := @extends_startPolling σ ε o cfg σ' ε' o' members inherited ext w
      { m with base := { m.base with eventWaits := 0 } }
    simp only [DerivedMonitor.hostOn] at result
    cases result
    simp only [derivedMachine, DerivedMonitor.hostOn]
    simp only [inheritedPart] at called ⊢
    rw [called]
    rfl
  | hostTurnsOn w =>
    have result := Option.some.inj step
    have called := @extends_startPolling σ ε o cfg σ' ε' o' members inherited ext w
      { m with base := { m.base with hostOff := false, eventWaits := 0 } }
    simp only [DerivedMonitor.hostOn] at result
    cases result
    simp only [derivedMachine, DerivedMonitor.hostOn]
    simp only [inheritedPart] at called ⊢
    rw [called]
    rfl
  | eventHandler w =>
    simp only [derivedMachine] at step ⊢
    split at step
    next queued =>
      have called := @extends_startPolling σ ε o cfg σ' ε' o' members inherited ext w
        { m with base := { m.base with eventReady := m.base.eventReady - 1 } }
      rw [Option.some.inj step] at called
      exact (if_pos queued).trans (congrArg some called)
    · cases step
  | timerHandler w =>
    simp only [derivedMachine] at step ⊢
    split at step
    next queued =>
      have called := @extends_poll σ ε o cfg σ' ε' o' members inherited ext w
        { m with base := { m.base with timerReady := m.base.timerReady - 1 } }
      rw [Option.some.inj step] at called
      exact (if_pos queued).trans (congrArg some called)
    · cases step

/-- A run of the derived class, seen through what it inherits, is one of the class
in between. -/
theorem extends_run (ext : Extends o' o members inherited) {is : List DerivedInput}
    {c c' : DerivedMonitor σ' × List (DerivedEvent ε')}
    (run : (derivedMachine o' cfg).exec c is = some c') :
    (derivedMachine o cfg).exec
        (inheritedPart members c.1, c.2.filterMap (inheritedEvent inherited)) is =
      some (inheritedPart members c'.1, c'.2.filterMap (inheritedEvent inherited)) := by
  have seen := (derivedMachine o' cfg).exec_image (derivedMachine o cfg) (inheritedPart members) id
    (inheritedEvent inherited) (fun _ _ _ _ step => extends_step ext step) run
  rwa [List.map_id] at seen

end extension
end HostErrorMonitor.Guarantees
