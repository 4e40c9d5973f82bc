import HostErrorMonitor.Guarantees.OverrideRefinement
import HostErrorMonitor.Guarantees.TimeoutBlame
import HostErrorMonitor.Source.Err2Monitor

/-!
# ERR2 timeouts

The monitor of ERR2 calls every function that it overrides, so its runs are those
of the monitor of an ERR pin that it derives from, constructor included, and its
reports name the CPUs of the latest sample. Its LED is written by the handlers
alone. As for any indicator that they write, it shows the last sample whenever
the timer cannot go on.
-/
namespace HostErrorMonitor.Guarantees
open HostErrorMonitor.Source HostErrorMonitor.Source.DerivedMonitor Reactive
open BaseGPIOPollMonitor (sees seen polled waitForEvent armTimer elapse mem_seen)

section indicator
variable {σ ε : Type} {o : PollOverrides σ ε} {cfg : PollConfig} {lit : σ → Bool}

/-- The overrides switch an indicator on in `assertHandler`, off in
`deassertHandler`, and nowhere else. -/
structure Indicates (o : PollOverrides σ ε) (lit : σ → Bool) : Prop where
  starting : ∀ peci own, lit (o.startPolling peci own).1 = lit own
  asserting : ∀ peci own, lit (o.assertHandler peci own).1 = true
  deasserting : ∀ own, lit (o.deassertHandler own).1 = false

def isAsserted : PollEvent → Bool
  | .asserted _ => true
  | _ => false

/-- The last sample of the signal was asserted. -/
def LastSampleAsserted (tr : List PollEvent) : Prop :=
  latest isAsserted tr = some (.asserted true)

/-- While no timer can go on, the indicator is on if the last sample was asserted,
and off otherwise. -/
def IndicatesSample (lit : σ → Bool) (c : DerivedMonitor σ × List (DerivedEvent ε)) : Prop :=
  ¬ TimerPending c.1.base → (lit c.1.own = true ↔ LastSampleAsserted (baseEvents c.2))

theorem lastSampleAsserted_seen (tr : List PollEvent) (env : Interference) (s : BaseGPIOPollMonitor)
    {out : List PollEvent} (unsampled : ∀ x ∈ out, isAsserted x = false) :
    LastSampleAsserted (tr ++ (seen env s ++ out)) ↔ sees env s = true := by
  have split : tr ++ (seen env s ++ out) =
      (tr ++ .flushEvents :: List.replicate env.edgesBeforeRead .edge) ++ .asserted (sees env s) ::
        (List.replicate env.edgesAfterRead .edge ++ out) := by
    simp [seen, BaseGPIOPollMonitor.sampled]
  have later : ∀ x ∈ List.replicate env.edgesAfterRead PollEvent.edge ++ out, isAsserted x = false := by
    intro x member
    rcases List.mem_append.mp member with edge | after
    · rw [List.eq_of_mem_replicate edge]
      rfl
    · exact unsampled x after
  unfold LastSampleAsserted
  rw [split, latest_append_marked isAsserted _ _ _ rfl later]
  simp

/-- A poll leaves its own sample indicated, or the timer armed. -/
theorem poll_indicatesSample (indicates : Indicates o lit) (w : Surroundings) (m : DerivedMonitor σ)
    (tr : List (DerivedEvent ε)) :
    IndicatesSample lit ((poll o cfg w m).1, tr ++ (poll o cfg w m).2) := by
  intro idle
  rw [baseEvents_append, baseEvents_poll]
  rcases DerivedMonitor.poll_cases o cfg w m with ⟨saw, result⟩ | ⟨saw, late, result⟩ |
    ⟨_, _, result⟩
  · have events : (BaseGPIOPollMonitor.poll cfg w.poll m.base).2 =
        seen w.poll m.base ++ [.deassertHandler, .waitForEvent] := by
      rcases BaseGPIOPollMonitor.poll_cases cfg w.poll m.base with ⟨_, run⟩ | ⟨other, _⟩ | ⟨other, _⟩
      · rw [run]
      · rw [saw] at other
        cases other
      · rw [saw] at other
        cases other
    rw [events, lastSampleAsserted_seen _ _ _ (by simp [isAsserted]), saw, result]
    simp [indicates.deasserting]
  · have events : (BaseGPIOPollMonitor.poll cfg w.poll m.base).2 = seen w.poll m.base ++
        [.assertHandler (m.base.clock + w.poll.delay) m.base.timeoutMs, .waitForEvent] := by
      rcases BaseGPIOPollMonitor.poll_cases cfg w.poll m.base with ⟨other, _⟩ | ⟨_, _, run⟩ |
        ⟨_, early, _⟩
      · rw [saw] at other
        cases other
      · rw [run]
      · omega
    rw [events, lastSampleAsserted_seen _ _ _ (by simp [isAsserted]), saw, result]
    simp [indicates.asserting]
  · rw [result] at idle
    exact absurd (Or.inl (Option.some_ne_none _)) idle

/-- A step that leaves the members, and what is pending of the timer, as they are. -/
theorem indicatesSample_quiet {m m' : DerivedMonitor σ} {tr out : List (DerivedEvent ε)}
    (before : IndicatesSample lit (m, tr)) (same : m'.own = m.own)
    (pending : TimerPending m.base → TimerPending m'.base)
    (unsampled : ∀ x ∈ baseEvents out, isAsserted x = false) : IndicatesSample lit (m', tr ++ out) := by
  intro idle
  have resting := before fun was => idle (pending was)
  unfold LastSampleAsserted at resting ⊢
  rw [baseEvents_append, latest_append_unmarked isAsserted _ _ unsampled, same]
  exact resting

theorem indicatesSample_step (indicates : Indicates o lit)
    {c c' : DerivedMonitor σ × List (DerivedEvent ε)} {i : DerivedInput}
    (before : IndicatesSample lit c) (next : (derivedMachine o cfg).next c i = some c') :
    IndicatesSample lit c' := by
  obtain ⟨m', out, step, rfl⟩ := (derivedMachine o cfg).next_some.mp next
  rcases derived_step_cases step with ⟨j, base, events, rfl, inherited, answered, rfl, rfl⟩ |
    ⟨w, m, announced, _, _, _, rfl, rfl⟩ | ⟨w, rfl, _, run⟩
  · obtain ⟨trace, _, _, pending⟩ := inherited_step inherited answered
    refine indicatesSample_quiet before rfl pending.mpr ?_
    rw [baseEvents_base]
    rcases trace with rfl | rfl <;> simp [isAsserted]
  · rw [startPolling_eq, ← List.append_assoc, ← List.append_assoc]
    exact poll_indicatesSample indicates w (restarted o cfg w m) _
  · have after := @poll_indicatesSample σ ε o cfg lit indicates w
      { c.1 with base := { c.1.base with timerReady := c.1.base.timerReady - 1 } } c.2
    rwa [run] at after

end indicator

section err2
variable {n : Nat} {lib : Libpeci} {cfg : PollConfig}
open Err2Monitor (errPin objectPath)
open ErrPinTimeoutMonitor (ErrPinEffect)

/-- The effects of the inherited functions. -/
def errPinEffect : Err2Effect n → Option (ErrPinEffect n)
  | .errPin effect => some effect
  | _ => none

/-- The monitor of ERR2 calls every function that it overrides. -/
theorem err2_extends (n : Nat) (lib : Libpeci) :
    Extends (Err2Monitor.overrides n lib) (ErrPinTimeoutMonitor.overrides n lib errPin)
      (fun m => m.errPinCPUs) errPinEffect := by
  constructor
  · intro peci m
    rfl
  · intro peci m
    rfl
  · intro m
    rfl

/-- A monitor of ERR2 as the monitor of an ERR pin that it is. -/
def asErrPinTimeout (c : DerivedMonitor (Err2Monitor n) × List (DerivedEvent (Err2Effect n))) :
    DerivedMonitor (BitVec n) × List (DerivedEvent (ErrPinEffect n)) :=
  (inheritedPart (fun m => m.errPinCPUs) c.1, c.2.filterMap (inheritedEvent errPinEffect))

theorem asErrPinTimeout_initial (n : Nat) (lib : Libpeci) (cfg : PollConfig) (l : ValidPollLine) :
    asErrPinTimeout (Err2Monitor.initial n lib cfg l) =
      ErrPinTimeoutMonitor.initial n lib errPin cfg l := by
  have lifted : inheritedEvent errPinEffect ∘ DerivedEvent.map Err2Effect.errPin =
      (some : DerivedEvent (ErrPinEffect n) → _) := by
    funext x
    cases x <;> rfl
  unfold asErrPinTimeout Err2Monitor.initial
  simp only [List.filterMap_map, lifted, List.filterMap_some]
  rfl

/-- Every run of the monitor of ERR2 is one of the monitor of an ERR pin, as pin 2
and from its own constructor, and every report of it logs entries that name exactly
the CPUs of the latest sample. -/
theorem err2_is_errPinTimeout (n : Nat) (lib : Libpeci) (cfg : PollConfig) (l : ValidPollLine)
    (is : List DerivedInput) (c : DerivedMonitor (Err2Monitor n) × List (DerivedEvent (Err2Effect n)))
    (run : (derivedMachine (Err2Monitor.overrides n lib) cfg).exec
      (Err2Monitor.initial n lib cfg l) is = some c) :
    (derivedMachine (ErrPinTimeoutMonitor.overrides n lib errPin) cfg).exec
        (ErrPinTimeoutMonitor.initial n lib errPin cfg l) is = some (asErrPinTimeout c) ∧
      Justified (NamesSample errPin) (asErrPinTimeout c).2 := by
  have seen : (derivedMachine (ErrPinTimeoutMonitor.overrides n lib errPin) cfg).exec
      (ErrPinTimeoutMonitor.initial n lib errPin cfg l) is = some (asErrPinTimeout c) := by
    rw [← asErrPinTimeout_initial]
    exact extends_run (err2_extends n lib) run
  have sampling : Sampling errPin (asErrPinTimeout c) :=
    (derivedMachine (ErrPinTimeoutMonitor.overrides n lib errPin) cfg).invariant
      (fun _ _ _ before _ next => sampling_step before next) (sampling_initial l)
      ((derivedMachine (ErrPinTimeoutMonitor.overrides n lib errPin) cfg).along_true _ is) seen
  exact ⟨seen, sampling.justified⟩

/-- The pin stays asserted, and a timeout is reported. -/
def err2TimesOut : List DerivedInput :=
  [.hostOn undisturbed, .inherited (.tick 91000000000), .inherited .timerExpires,
    .timerHandler undisturbed]

theorem err2_timeout_is_errPinTimeout : ∃ c,
    (derivedMachine (Err2Monitor.overrides 8 libpeci) err2Config).exec
      (Err2Monitor.initial 8 libpeci err2Config assertedErrPin) err2TimesOut = some c ∧
    (derivedMachine (ErrPinTimeoutMonitor.overrides 8 libpeci errPin) err2Config).exec
        (ErrPinTimeoutMonitor.initial 8 libpeci errPin err2Config assertedErrPin) err2TimesOut =
      some (asErrPinTimeout c) ∧
    Justified (NamesSample errPin) (asErrPinTimeout c).2 :=
  ⟨_, rfl, err2_is_errPinTimeout 8 libpeci err2Config assertedErrPin err2TimesOut _ rfl⟩

/-- The LED shows the critical pair. -/
def err2Lit (m : Err2Monitor n) : Bool := m.associationERR2 == criticalAssociations objectPath

/-- The LED shows something. -/
def err2Shown (m : Err2Monitor n) : Bool := m.associationERR2 != noAssociations

theorem err2Lit_indicates (n : Nat) (lib : Libpeci) :
    Indicates (Err2Monitor.overrides n lib) err2Lit := by
  constructor
  · intro peci m
    rfl
  · intro peci m
    exact beq_self_eq_true _
  · intro m
    exact beq_false_of_ne (criticalAssociations_ne objectPath).symm

theorem err2Shown_indicates (n : Nat) (lib : Libpeci) :
    Indicates (Err2Monitor.overrides n lib) err2Shown := by
  constructor
  · intro peci m
    rfl
  · intro peci m
    exact bne_iff_ne.mpr (criticalAssociations_ne objectPath)
  · intro m
    exact bne_self_eq_false _

/-- The LED is as the last sample was. -/
structure LedFollows (associations : List Association) (tr : List PollEvent) : Prop where
  lit : associations = criticalAssociations objectPath ↔ LastSampleAsserted tr
  cleared : associations = noAssociations ↔ ¬ LastSampleAsserted tr

/-- In every state of every run the LED of ERR2 is lit with its critical pair if the
last sample was asserted, and cleared if not, as long as no timer can go on. The
trace begins when the object is constructed: a report that its inherited constructor
makes lights nothing. -/
theorem err2_led_follows_last_sample (n : Nat) (lib : Libpeci) (cfg : PollConfig) (l : ValidPollLine)
    (is : List DerivedInput) :
    (derivedMachine (Err2Monitor.overrides n lib) cfg).Always
      (fun c => ¬ TimerPending c.1.base → LedFollows c.1.own.associationERR2 (baseEvents c.2))
      ((Err2Monitor.initial n lib cfg l).1, []) is := by
  refine (derivedMachine (Err2Monitor.overrides n lib) cfg).always_of_invariant
    (I := fun c => IndicatesSample err2Lit c ∧ IndicatesSample err2Shown c)
    (fun _ _ _ before _ next =>
      ⟨indicatesSample_step (err2Lit_indicates n lib) before.1 next,
        indicatesSample_step (err2Shown_indicates n lib) before.2 next⟩)
    (fun c before idle => ?_) ?_
    ((derivedMachine (Err2Monitor.overrides n lib) cfg).along_true _ is)
  · have lit := before.1 idle
    have shown := before.2 idle
    constructor
    · rw [← lit]
      exact beq_iff_eq.symm
    · rw [← shown]
      simp [err2Shown]
  · -- nothing is sampled yet, and the constructor registers the LED as cleared
    have unsampled : ¬ LastSampleAsserted [] := nofun
    have off : err2Lit (Err2Monitor.initial n lib cfg l).1.own = false :=
      beq_false_of_ne (criticalAssociations_ne objectPath).symm
    have clear : err2Shown (Err2Monitor.initial n lib cfg l).1.own = false := bne_self_eq_false _
    constructor
    · intro _
      rw [off]
      exact ⟨nofun, fun sampled => absurd sampled unsampled⟩
    · intro _
      rw [clear]
      exact ⟨nofun, fun sampled => absurd sampled unsampled⟩

end err2
end HostErrorMonitor.Guarantees
