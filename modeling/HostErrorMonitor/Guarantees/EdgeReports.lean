import Mathlib.Data.List.Count
import HostErrorMonitor.Guarantees.EdgeHandlers

/-!
# Reports of an edge-driven monitor and the assertions of its line

`startMonitoring` acts on the level without reading the queue empty first, as
`poll` does in the polling monitor. An edge from before the level read is then
counted twice, by the level and by its event, or an assertion from before the
line request not at all. Edges in that window cancel out in pairs only.
-/
namespace HostErrorMonitor.Guarantees
open Reactive Source BaseGPIOMonitor

variable {π : Type} {h : GPIOHandlers π} {l : ValidLine} {assertValue : AssertValue}
  {published : π}

/-- Every assertion of the line was reported once: the one that the request met,
and each later edge to the asserted level. -/
def ReportedOnce (assertedAtRequest : Bool) (trace : List GPIOEvent) : Prop :=
  trace.count .assertHandler = trace.count (.edge true) + assertedAtRequest.toNat

instance (assertedAtRequest : Bool) (trace : List GPIOEvent) :
    Decidable (ReportedOnce assertedAtRequest trace) :=
  inferInstanceAs (Decidable (_ = _))

/-- Every edge inverts the level. -/
theorem level_parity {is : List GPIOInput} {c : BaseGPIOMonitor π × List GPIOEvent}
    (run : (gpioMachine h).exec (l.initial assertValue published) is = some c) :
    asserted c.1 = (l.assertedAtRequest assertValue ^^ (is.count .edge % 2 == 1)) := by
  refine (gpioMachine h).run_induction
    (fun is c => asserted c.1 = (l.assertedAtRequest assertValue ^^ (is.count .edge % 2 == 1)))
    ?_ ?_ run
  · simp only [List.count_nil]
    exact (Bool.xor_false _).symm
  · intro is d i c _ level next
    obtain ⟨s', out, step, rfl⟩ := (gpioMachine h).next_some.mp next
    rw [List.count_append]
    rcases gpio_step_cases step with ⟨rfl, rfl, rfl⟩ | ⟨rfl, _, _, rfl, rfl⟩ | ⟨rfl, _, _, rfl, rfl⟩ |
      ⟨rfl, _, rfl, rfl⟩ | ⟨event, rest, rfl, _, _, rfl, rfl⟩
    · rw [edge_asserted, level, List.count_singleton_self]
      rcases Nat.mod_two_eq_zero_or_one (is.count .edge) with even | odd
      · simp [Nat.add_mod, even]
      · simp [Nat.add_mod, odd]
    all_goals exact level

/-- What was reported, counted on the levels that the handlers acted on. -/
theorem replaying_counts {first : Bool} {processed : List Bool}
    {c : BaseGPIOMonitor π × List GPIOEvent} (replaying : Replaying first processed c)
    (empty : c.1.unread = []) :
    c.2.count .assertHandler = first.toNat + processed.count true ∧
      c.2.count (.edge true) = processed.count true := by
  have none_queued : queued c.1 = [] := by rw [queued, empty, List.map_nil]
  constructor
  · have reports : c.2.count .assertHandler = (c.2.filter isHandler).count .assertHandler :=
      (List.count_filter rfl).symm
    rw [reports, replaying.handlers]
    calc ((first :: processed).map handlerEvent).count .assertHandler
        = (first :: processed).count true :=
          List.count_map_of_injective _ handlerEvent handlerEvent_injective true
      _ = first.toNat + processed.count true := by
          cases first <;> simp [Nat.add_comm]
  · have edges : c.2.count (.edge true) = (c.2.filter isEdge).count (.edge true) :=
      (List.count_filter rfl).symm
    rw [edges, replaying.edges, none_queued, List.append_nil]
    exact List.count_map_of_injective _ GPIOEvent.edge (fun _ _ => GPIOEvent.edge.inj) true

/-- From `startMonitoring` to an empty queue: one report for each edge to the
asserted level, and one if the level read was asserted. -/
theorem reports_of_run {pre post : List GPIOInput} {c : BaseGPIOMonitor π × List GPIOEvent}
    (run : (gpioMachine h).exec (l.initial assertValue published)
      (pre ++ .startMonitoring :: post) = some c) (empty : c.1.unread = []) :
    c.2.count .assertHandler = c.2.count (.edge true) +
      (l.assertedAtRequest assertValue ^^ (pre.count .edge % 2 == 1)).toNat := by
  obtain ⟨d, before, started⟩ := (gpioMachine h).exec_append.mp run
  obtain ⟨e, next, after⟩ := (gpioMachine h).exec_cons.mp started
  have waiting : Waiting d := by
    rcases waiting_or_replaying before with waiting | ⟨_, _, replaying⟩
    · exact waiting
    · obtain ⟨s', out, step, _⟩ := (gpioMachine h).next_some.mp next
      simp [gpioMachine, replaying.monitoring] at step
  have kept : ∀ c i c', (∃ processed, Replaying (asserted d.1) processed c) → True →
      (gpioMachine h).next c i = some c' → ∃ processed, Replaying (asserted d.1) processed c' := by
    rintro c i c' ⟨processed, replaying⟩ _ next
    exact replaying_step replaying next
  have replayed : ∃ processed, Replaying (asserted d.1) processed c :=
    (gpioMachine h).invariant kept ⟨[], replaying_start waiting next⟩
      ((gpioMachine h).along_true e post) after
  obtain ⟨processed, replaying⟩ := replayed
  obtain ⟨reports, edges⟩ := replaying_counts replaying empty
  rw [reports, edges, level_parity before, Nat.add_comm]

/-- Once the queue is empty, every assertion was reported once, exactly if the
edges between the line request and the level read are even in number. -/
theorem assertions_reported_once_iff (h : GPIOHandlers π) (l : ValidLine)
    (assertValue : AssertValue) (published : π) (pre post : List GPIOInput)
    (c : BaseGPIOMonitor π × List GPIOEvent)
    (run : (gpioMachine h).exec (l.initial assertValue published)
      (pre ++ .startMonitoring :: post) = some c)
    (processed : c.1.unread = []) :
    ReportedOnce (l.assertedAtRequest assertValue) c.2 ↔ pre.count .edge % 2 = 0 := by
  unfold ReportedOnce
  rw [reports_of_run run processed]
  rcases Nat.mod_two_eq_zero_or_one (pre.count .edge) with even | odd
  · simp [even]
  · rw [odd]
    cases l.assertedAtRequest assertValue <;> simp

/-- The line of a CPU thermal trip, deasserted when it is requested. -/
def idleThermtripLine : ValidLine where
  setup := ⟨true, true, 3⟩
  valid := by decide
  high := true

/-- The events of two edges are handled, and a third edge asserts the signal. -/
def assertedAfterPulse : List GPIOInput :=
  [.eventCompletes, .eventHandler, .edge, .eventCompletes, .eventHandler, .eventCompletes,
    .eventHandler]

/-- Two edges before the level read, and an assertion after it. -/
theorem assertions_reported_once_after_pulse : ∃ c,
    (gpioMachine (CPUThermtripMonitor.handlers 1)).exec
      (CPUThermtripMonitor.initial idleThermtripLine "CPU1_THERMTRIP" "")
      ([.edge, .edge] ++ .startMonitoring :: assertedAfterPulse) = some c ∧
    ReportedOnce (idleThermtripLine.assertedAtRequest CPUThermtripMonitor.assertValue) c.2 :=
  ⟨_, rfl, (assertions_reported_once_iff (CPUThermtripMonitor.handlers 1) idleThermtripLine
    CPUThermtripMonitor.assertValue _ [.edge, .edge] assertedAfterPulse _ rfl rfl).mpr rfl⟩

/-- One assertion between the line request and the level read is reported twice. -/
theorem assertion_reported_twice : ∃ c,
    (gpioMachine (CPUThermtripMonitor.handlers 1)).exec
      (CPUThermtripMonitor.initial idleThermtripLine "CPU1_THERMTRIP" "")
      [.edge, .startMonitoring, .eventCompletes, .eventHandler] = some c ∧
    c.1.unread = [] ∧
    ¬ ReportedOnce (idleThermtripLine.assertedAtRequest CPUThermtripMonitor.assertValue) c.2 :=
  ⟨_, rfl, rfl, by decide⟩

end HostErrorMonitor.Guarantees
