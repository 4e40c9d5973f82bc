import HostErrorMonitor.Guarantees.DerivedPolling
import HostErrorMonitor.Source.IerrOverrides

/-!
# The IERR indicators follow the last sample

The property `Asserted` and the LED are written together, in the two handlers. A
poll that sees the signal asserted before the deadline runs neither, and leaves
the indicators to a later poll, but it arms the timer. So with no timer wait
outstanding and none of its handlers queued the last poll ran a handler, whatever
came before it and however many chains there are.
-/
namespace HostErrorMonitor.Guarantees
open HostErrorMonitor.Source HostErrorMonitor.Source.DerivedMonitor Reactive
open HostErrorMonitor.Source.IERRMonitor
open BaseGPIOPollMonitor (sees seen polled waitForEvent armTimer elapse)

variable {lib : Libpeci} {cfg : PollConfig}

def isVerdict : DerivedEvent IERREffect → Bool
  | .base (.asserted _) => true
  | _ => false

/-- What `asserted()` returned in the last poll. -/
def lastSample (tr : List (DerivedEvent IERREffect)) : Option Bool :=
  match latest isVerdict tr with
  | some (.base (.asserted value)) => some value
  | _ => none

/-- `Asserted` and the LED are on together. -/
def IndicatorsAgree (m : IERRMonitor) : Prop :=
  m.assertIERR.asserted = true ↔ m.associationIERR = criticalAssociations objectPath

/-- While no timer can go on, the indicators are what the last poll saw. -/
structure Indicated (c : DerivedMonitor IERRMonitor × List (DerivedEvent IERREffect)) : Prop where
  agree : IndicatorsAgree c.1.own
  resting : ¬ TimerPending c.1.base → lastSample c.2 = some c.1.own.assertIERR.asserted

theorem lastSample_append (tr out : List (DerivedEvent IERREffect))
    (unsampled : ∀ x ∈ out, isVerdict x = false) : lastSample (tr ++ out) = lastSample tr := by
  unfold lastSample
  rw [latest_append_unmarked isVerdict tr out unsampled]

/-- A poll samples the signal once, between its edges. -/
theorem lastSample_seen (env : Interference) (s : BaseGPIOPollMonitor)
    (tr : List (DerivedEvent IERREffect)) :
    lastSample (tr ++ (seen env s).map .base) = some (sees env s) := by
  have split : tr ++ (seen env s).map DerivedEvent.base =
      (tr ++ .base .flushEvents :: List.replicate env.edgesBeforeRead (.base .edge)) ++
        .base (.asserted (sees env s)) :: List.replicate env.edgesAfterRead (.base .edge) := by
    simp [seen, BaseGPIOPollMonitor.sampled]
  have edges : ∀ x ∈ List.replicate env.edgesAfterRead
      (DerivedEvent.base (ε := IERREffect) .edge), isVerdict x = false := by
    intro x member
    rw [List.eq_of_mem_replicate member]
    rfl
  unfold lastSample
  rw [split, latest_append_marked isVerdict _ _ _ rfl edges]

theorem agree_asserted (lib : Libpeci) (peci : Peci) (m : IERRMonitor) :
    IndicatorsAgree (assertHandler lib peci m).1 := by
  constructor
  · intro _
    rfl
  · intro _
    rfl

theorem agree_deasserted (m : IERRMonitor) : IndicatorsAgree (deassertHandler m).1 := by
  constructor
  · intro on
    cases on
  · intro lit
    exact absurd lit.symm (criticalAssociations_ne objectPath)

/-- Each way in which a poll ends leaves its own sample indicated, or the timer armed. -/
theorem poll_indicated (w : Surroundings) (m : DerivedMonitor IERRMonitor)
    (tr : List (DerivedEvent IERREffect)) (agree : IndicatorsAgree m.own) :
    Indicated ((poll (overrides lib) cfg w m).1, tr ++ (poll (overrides lib) cfg w m).2) := by
  have sampled := lastSample_seen w.poll m.base tr
  rcases DerivedMonitor.poll_cases (overrides lib) cfg w m with ⟨saw, result⟩ | ⟨saw, _, result⟩ |
    ⟨_, _, result⟩
  · rw [result, ← List.append_assoc]
    refine ⟨agree_deasserted m.own, fun _ => ?_⟩
    rw [lastSample_append, sampled, saw]
    · rfl
    · intro x member
      rcases mem_handled member with rfl | ⟨effect, _, rfl⟩ | rfl <;> rfl
  · rw [result, ← List.append_assoc]
    refine ⟨agree_asserted lib w.peci m.own, fun _ => ?_⟩
    rw [lastSample_append, sampled, saw]
    · rfl
    · intro x member
      rcases mem_handled member with rfl | ⟨effect, _, rfl⟩ | rfl <;> rfl
  · rw [result]
    refine ⟨agree, fun idle => ?_⟩
    exact absurd (Or.inl (Option.some_ne_none _)) idle

/-- The override of `startPolling` is the inherited one. -/
theorem starts_indicated (w : Surroundings) (m : DerivedMonitor IERRMonitor)
    (tr : List (DerivedEvent IERREffect)) (agree : IndicatorsAgree m.own) :
    Indicated ((startPolling (overrides lib) cfg w m).1,
      tr ++ (startPolling (overrides lib) cfg w m).2) := by
  rw [startPolling_eq, ← List.append_assoc]
  exact poll_indicated w (restarted (overrides lib) cfg w m) _ agree

/-- A step that leaves the indicators and what is pending of the timer as they are. -/
theorem indicated_quiet {m m' : DerivedMonitor IERRMonitor} {tr out : List (DerivedEvent IERREffect)}
    (indicated : Indicated (m, tr)) (asserted : m'.own.assertIERR = m.own.assertIERR)
    (association : m'.own.associationIERR = m.own.associationIERR)
    (pending : TimerPending m.base → TimerPending m'.base)
    (unsampled : ∀ x ∈ out, isVerdict x = false) : Indicated (m', tr ++ out) := by
  obtain ⟨agree, resting⟩ := indicated
  refine ⟨?_, fun idle => ?_⟩
  · unfold IndicatorsAgree at agree ⊢
    rw [asserted, association]
    exact agree
  · rw [lastSample_append tr out unsampled, asserted]
    exact resting fun before => idle (pending before)

theorem indicated_step {c c' : DerivedMonitor IERRMonitor × List (DerivedEvent IERREffect)}
    {i : IERRInput} (indicated : Indicated c) (next : (ierrMachine lib cfg).next c i = some c') :
    Indicated c' := by
  obtain ⟨m', out, step, rfl⟩ := (ierrMachine lib cfg).next_some.mp next
  rcases ierr_step_cases step with ⟨i, rfl, _, step⟩ | ⟨requested, rfl, _, rfl, rfl⟩ |
    ⟨requested, rfl, _, rfl, rfl⟩
  · rcases derived_step_cases step with ⟨j, base, events, rfl, inherited, answered, rfl, rfl⟩ |
      ⟨w, m, announced, started, _, _, rfl, rfl⟩ | ⟨w, rfl, _, run⟩
    · obtain ⟨trace, _, _, pending⟩ := inherited_step inherited answered
      refine indicated_quiet indicated rfl rfl pending.mpr ?_
      rcases trace with rfl | rfl <;> simp [isVerdict]
    · have same : m.own = c.1.own := by
        cases i <;> cases started <;> rfl
      rw [← List.append_assoc]
      apply starts_indicated w m
      rw [same]
      exact indicated.agree
    · have after := @poll_indicated lib cfg w
        { c.1 with base := { c.1.base with timerReady := c.1.base.timerReady - 1 } } c.2 indicated.agree
      rwa [run] at after
  · exact indicated_quiet indicated rfl rfl id (by simp [isVerdict])
  · exact indicated_quiet indicated rfl rfl id (by simp [isVerdict])

/-- The constructor registers both as off. -/
theorem indicated_initial (l : ValidPollLine) (signalName customName : String) :
    Indicated (IERRMonitor.initial lib cfg l signalName customName) := by
  unfold IERRMonitor.initial
  rw [ValidPollLine.initial_eq]
  apply starts_indicated l.start _ []
  constructor
  · intro on
    cases on
  · intro lit
    exact absurd lit.symm (criticalAssociations_ne objectPath)

/-- In every state of every run `Asserted` is on just when the LED is, and while no
timer can go on they are on just when the last poll saw the signal asserted. -/
theorem indicators_follow_last_sample (lib : Libpeci) (cfg : PollConfig) (l : ValidPollLine)
    (signalName customName : String) (is : List IERRInput) :
    (ierrMachine lib cfg).Always (fun c => IndicatorsAgree c.1.own ∧
      (¬ TimerPending c.1.base →
        (c.1.own.assertIERR.asserted = true ∧
          c.1.own.associationIERR = criticalAssociations objectPath ↔ lastSample c.2 = some true)))
      (IERRMonitor.initial lib cfg l signalName customName) is := by
  refine (ierrMachine lib cfg).always_of_invariant
    (fun _ _ _ indicated _ next => indicated_step indicated next) (fun c indicated => ?_)
    (indicated_initial l signalName customName) ((ierrMachine lib cfg).along_true _ is)
  refine ⟨indicated.agree, fun idle => ?_⟩
  rw [indicated.resting idle]
  constructor
  · intro on
    rw [on.1]
  · intro saw
    have on : c.1.own.assertIERR.asserted = true := Option.some.inj saw
    exact ⟨on, indicated.agree.mp on⟩

end HostErrorMonitor.Guarantees
