import HostErrorMonitor.Reactive.Trace
import HostErrorMonitor.Source.ThermtripMonitors

/-!
# An edge-driven monitor ends on the level of its line

The handlers act on queued edges, not on the level. The edges are handled in
their order, so once the queue is empty the handler of the last edge has run
last; and where no edge was ever queued, the level that `startMonitoring` read
is still there. What the monitor publishes is what that handler wrote.
-/
namespace HostErrorMonitor.Guarantees
open Reactive Source BaseGPIOMonitor

variable {π : Type} {h : GPIOHandlers π}

def isEdge : GPIOEvent → Bool
  | .edge _ => true
  | _ => false

def isHandler : GPIOEvent → Bool
  | .assertHandler => true
  | .deassertHandler => true
  | _ => false

/-- The handler is all that a run of it leaves, but for its entries and the wait. -/
theorem handling_filter (p : GPIOEvent → Bool) (level : Bool) (published : π)
    (entries : ∀ entry, p (.logMessage entry) = false) (wait : p .waitForEvent = false) :
    (handling h level published).filter p = [handlerEvent level].filter p := by
  have logged : ((handled h level published).2.map GPIOEvent.logMessage).filter p = [] := by
    rw [List.filter_eq_nil_iff]
    intro x member
    obtain ⟨entry, _, rfl⟩ := List.mem_map.mp member
    simp [entries entry]
  unfold handling
  rw [← List.singleton_append, List.append_assoc, List.filter_append, List.filter_append, logged]
  simp [wait]

@[simp] theorem handling_edges (level : Bool) (published : π) :
    (handling h level published).filter isEdge = [] := by
  rw [handling_filter isEdge level published (fun _ => rfl) rfl]
  cases level <;> rfl

@[simp] theorem handling_handlers (level : Bool) (published : π) :
    (handling h level published).filter isHandler = [handlerEvent level] := by
  rw [handling_filter isHandler level published (fun _ => rfl) rfl]
  cases level <;> rfl

/-- The levels that the queued edges lead to. -/
def queued (s : BaseGPIOMonitor π) : List Bool := s.unread.map (fun event => event == .risingEdge)

/-- Until `startMonitoring`, every edge is queued and no handler has run. -/
structure Waiting (c : BaseGPIOMonitor π × List GPIOEvent) : Prop where
  idle : c.1.monitoring = false
  noWait : c.1.eventWaits = 0
  noneReady : c.1.eventReady = 0
  edges : c.2.filter isEdge = (queued c.1).map .edge
  handlers : c.2.filter isHandler = []
  level : (asserted c.1 :: queued c.1).getLast? = some (asserted c.1)

/-- From `startMonitoring` on: it acted on the level `first`, the edges handled
since were `processed`, and the other edges are queued. -/
structure Replaying (first : Bool) (processed : List Bool)
    (c : BaseGPIOMonitor π × List GPIOEvent) : Prop where
  monitoring : c.1.monitoring = true
  edges : c.2.filter isEdge = (processed ++ queued c.1).map .edge
  handlers : c.2.filter isHandler = (first :: processed).map handlerEvent
  level : (first :: (processed ++ queued c.1)).getLast? = some (asserted c.1)

/-- An edge queues the level it leads to. -/
@[simp] theorem edge_queued (s : BaseGPIOMonitor π) :
    queued (edge s).1 = queued s ++ [!asserted s] := by
  rw [edge_eq]
  cases level : asserted s <;> simp [queued]

theorem waiting_step {c c' : BaseGPIOMonitor π × List GPIOEvent} {i : GPIOInput}
    (waiting : Waiting c) (other : i ≠ .startMonitoring)
    (next : (gpioMachine h).next c i = some c') : Waiting c' := by
  obtain ⟨s', out, step, rfl⟩ := (gpioMachine h).next_some.mp next
  have noWait := waiting.noWait
  have noneReady := waiting.noneReady
  rcases gpio_step_cases step with ⟨_, rfl, rfl⟩ | ⟨start, _⟩ | ⟨_, some_wait, _⟩ | ⟨_, some_wait, _⟩ |
    ⟨_, _, _, some_ready, _⟩
  · exact {
      idle := waiting.idle
      noWait := noWait
      noneReady := noneReady
      edges := by simp [waiting.edges, isEdge]
      handlers := by simp [waiting.handlers, isHandler]
      level := by simp [List.getLast?_cons] }
  · exact absurd start other
  · omega
  · omega
  · omega

/-- `startMonitoring` acts on the level, and leaves the edges in the queue. -/
theorem replaying_start {c c' : BaseGPIOMonitor π × List GPIOEvent} (waiting : Waiting c)
    (next : (gpioMachine h).next c .startMonitoring = some c') :
    Replaying (asserted c.1) [] c' := by
  obtain ⟨s', out, step, rfl⟩ := (gpioMachine h).next_some.mp next
  rcases gpio_step_cases step with ⟨other, _⟩ | ⟨_, _, _, rfl, rfl⟩ | ⟨other, _⟩ | ⟨other, _⟩ |
    ⟨_, _, other, _⟩
  · cases other
  · exact {
      monitoring := rfl
      edges := by
        rw [List.filter_append, handling_edges, List.append_nil]
        exact waiting.edges
      handlers := by simp [waiting.handlers]
      level := waiting.level }
  · cases other
  · cases other
  · cases other

theorem replaying_step {first : Bool} {processed : List Bool}
    {c c' : BaseGPIOMonitor π × List GPIOEvent} {i : GPIOInput} (replaying : Replaying first processed c)
    (next : (gpioMachine h).next c i = some c') : ∃ processed', Replaying first processed' c' := by
  obtain ⟨s', out, step, rfl⟩ := (gpioMachine h).next_some.mp next
  obtain ⟨monitoring, edges, handlers, level⟩ := replaying
  rcases gpio_step_cases step with ⟨_, rfl, rfl⟩ | ⟨_, _, idle, _⟩ | ⟨_, _, _, rfl, rfl⟩ |
    ⟨_, _, rfl, rfl⟩ | ⟨event, rest, _, _, unread, rfl, rfl⟩
  · refine ⟨processed, monitoring, ?_, ?_, ?_⟩
    · simp [edges, isEdge]
    · simp [handlers, isHandler]
    · simp [List.getLast?_cons, ← List.append_assoc]
  · rw [monitoring] at idle
    cases idle
  · rw [List.append_nil]
    exact ⟨processed, monitoring, edges, handlers, level⟩
  · rw [List.append_nil]
    exact ⟨processed, monitoring, edges, handlers, level⟩
  · have oldest : queued c.1 = (event == .risingEdge) :: rest.map (fun event => event == .risingEdge) := by
      rw [queued, unread, List.map_cons]
    rw [oldest] at edges level
    refine ⟨processed ++ [event == .risingEdge], monitoring, ?_, ?_, ?_⟩
    · simpa [queued] using edges
    · simp [handlers]
    · rw [List.append_assoc]
      exact level

/-- The last handler to run is the one of the level `b`. -/
def LastHandler (b : Bool) (trace : List GPIOEvent) : Prop :=
  latest isHandler trace = some (handlerEvent b)

/-- With an empty queue, the last handler is the one of the level. -/
theorem lastHandler_of_replaying {first : Bool} {processed : List Bool}
    {c : BaseGPIOMonitor π × List GPIOEvent} (replaying : Replaying first processed c)
    (empty : c.1.unread = []) : LastHandler (asserted c.1) c.2 := by
  have none_queued : queued c.1 = [] := by rw [queued, empty, List.map_nil]
  have level := replaying.level
  rw [none_queued, List.append_nil] at level
  unfold LastHandler latest
  rw [replaying.handlers, List.getLast?_map, level, Option.map_some]

theorem waiting_or_replaying_step {c c' : BaseGPIOMonitor π × List GPIOEvent} {i : GPIOInput}
    (before : Waiting c ∨ ∃ first processed, Replaying first processed c)
    (next : (gpioMachine h).next c i = some c') :
    Waiting c' ∨ ∃ first processed, Replaying first processed c' := by
  rcases before with waiting | ⟨first, processed, replaying⟩
  · by_cases start : i = .startMonitoring
    · subst start
      exact Or.inr ⟨_, _, replaying_start waiting next⟩
    · exact Or.inl (waiting_step waiting start next)
  · exact Or.inr ⟨first, replaying_step replaying next⟩

theorem waiting_initial (l : ValidLine) (assertValue : AssertValue) (published : π) :
    Waiting (l.initial assertValue published) := by
  constructor <;> rfl

/-- The last handler to run wrote what is published now. -/
def Published (writes : Bool → π → Prop) (c : BaseGPIOMonitor π × List GPIOEvent) : Prop :=
  ∀ b, LastHandler b c.2 → writes b c.1.published

theorem lastHandler_handling (tr : List GPIOEvent) (level b : Bool) (published : π) :
    LastHandler b (tr ++ handling h level published) ↔ b = level := by
  unfold LastHandler latest
  rw [List.filter_append, handling_handlers, List.getLast?_append]
  simp [handlerEvent_injective.eq_iff, eq_comm]

theorem published_step {writes : Bool → π → Prop} {c c' : BaseGPIOMonitor π × List GPIOEvent}
    {i : GPIOInput} (sound : ∀ b p, writes b (handled h b p).1) (before : Published writes c)
    (next : (gpioMachine h).next c i = some c') : Published writes c' := by
  obtain ⟨s', out, step, rfl⟩ := (gpioMachine h).next_some.mp next
  intro b last
  rcases gpio_step_cases step with ⟨_, rfl, rfl⟩ | ⟨_, _, _, rfl, rfl⟩ | ⟨_, _, _, rfl, rfl⟩ |
    ⟨_, _, rfl, rfl⟩ | ⟨event, rest, _, _, _, rfl, rfl⟩
  · rw [LastHandler, latest_append_unmarked isHandler _ _ (by simp [isHandler])] at last
    exact before b last
  · rw [lastHandler_handling] at last
    subst last
    exact sound _ _
  · rw [List.append_nil] at last
    exact before b last
  · rw [List.append_nil] at last
    exact before b last
  · rw [lastHandler_handling] at last
    subst last
    exact sound _ _

section run
variable {l : ValidLine} {assertValue : AssertValue} {published : π}

theorem waiting_or_replaying {is : List GPIOInput} {c : BaseGPIOMonitor π × List GPIOEvent}
    (run : (gpioMachine h).exec (l.initial assertValue published) is = some c) :
    Waiting c ∨ ∃ first processed, Replaying first processed c :=
  (gpioMachine h).invariant (fun _ _ _ before _ next => waiting_or_replaying_step before next)
    (Or.inl (waiting_initial l assertValue published)) ((gpioMachine h).along_true _ is) run

/-- Between two handlers, with monitoring begun and an empty queue, the last
handler is the one of the level. -/
theorem lastHandler_always (is : List GPIOInput) :
    (gpioMachine h).Always
      (fun c => c.1.monitoring = true → c.1.unread = [] → LastHandler (asserted c.1) c.2)
      (l.initial assertValue published) is := by
  intro pre post c _ reach monitoring empty
  rcases waiting_or_replaying reach with waiting | ⟨first, processed, replaying⟩
  · rw [waiting.idle] at monitoring
    cases monitoring
  · exact lastHandler_of_replaying replaying empty

/-- There, what is published is what the handler of the level writes. -/
theorem published_always (writes : Bool → π → Prop) (sound : ∀ b p, writes b (handled h b p).1)
    (is : List GPIOInput) :
    (gpioMachine h).Always
      (fun c => c.1.monitoring = true → c.1.unread = [] → writes (asserted c.1) c.1.published)
      (l.initial assertValue published) is := by
  intro pre post c split reach monitoring empty
  have follows : Published writes c := by
    refine (gpioMachine h).invariant
      (fun c i c' before _ next => published_step sound before next) ?_
      ((gpioMachine h).along_true _ pre) reach
    intro b last
    cases last
  exact follows _ (lastHandler_always is pre post c split reach monitoring empty)

end run

/-- The LED is lit, with the associations that light it, exactly at an asserted level. -/
def LitWhile (level : Bool) (associations : List Association) : Prop :=
  (associations = criticalAssociations PCHThermtripMonitor.objectPath ↔ level = true) ∧
    (associations = noAssociations ↔ level = false)

/-- With monitoring begun and an empty queue, the last handler is that of the
line's level; the thermal trip monitors then publish that level. -/
theorem published_follows_line :
    (∀ (π : Type) (h : GPIOHandlers π) (l : ValidLine) (assertValue : AssertValue) (published : π)
      (is : List GPIOInput), (gpioMachine h).Always
        (fun c => c.1.monitoring = true → c.1.unread = [] → LastHandler (asserted c.1) c.2)
        (l.initial assertValue published) is) ∧
    (∀ (l : ValidLine) (signalName customName : String) (cpuNum : Nat) (is : List GPIOInput),
      (gpioMachine (CPUThermtripMonitor.handlers cpuNum)).Always
        (fun c => c.1.monitoring = true → c.1.unread = [] → c.1.published.asserted = asserted c.1)
        (CPUThermtripMonitor.initial l signalName customName) is) ∧
    (∀ (l : ValidLine) (signalName customName : String) (cpuNum : Nat) (is : List GPIOInput),
      (gpioMachine (MemThermtripMonitor.handlers cpuNum)).Always
        (fun c => c.1.monitoring = true → c.1.unread = [] → c.1.published.asserted = asserted c.1)
        (MemThermtripMonitor.initial l signalName customName) is) ∧
    ∀ (l : ValidLine) (is : List GPIOInput),
      (gpioMachine PCHThermtripMonitor.handlers).Always
        (fun c => c.1.monitoring = true → c.1.unread = [] →
          LitWhile (asserted c.1) c.1.published)
        (PCHThermtripMonitor.initial l) is := by
  refine ⟨?_, ?_, ?_, ?_⟩
  · intro π h l assertValue published is
    exact lastHandler_always is
  · intro l signalName customName cpuNum is
    refine published_always (fun level (p : AssertInterface) => p.asserted = level) ?_ is
    intro b p
    cases b <;> rfl
  · intro l signalName customName cpuNum is
    refine published_always (fun level (p : AssertInterface) => p.asserted = level) ?_ is
    intro b p
    cases b <;> rfl
  · intro l is
    refine published_always LitWhile ?_ is
    intro b p
    have lit := criticalAssociations_ne PCHThermtripMonitor.objectPath
    cases b with
    | true => exact ⟨⟨fun _ => rfl, fun _ => rfl⟩, fun same => absurd same lit, nofun⟩
    | false => exact ⟨⟨fun same => absurd same.symm lit, nofun⟩, fun _ => rfl, fun _ => rfl⟩

end HostErrorMonitor.Guarantees
