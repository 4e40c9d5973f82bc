import HostErrorMonitor.Guarantees.IerrLogging
import HostErrorMonitor.Guarantees.OverrideRefinement
import HostErrorMonitor.Guarantees.PollingReport
import HostErrorMonitor.Guarantees.RecoveryRequests
import HostErrorMonitor.Reactive.Composition
import HostErrorMonitor.Spec.ErrorResponse

/-!
# From a report to a reset of the host

A report of IERR, ERR2 or SMI asks for its setting once, and its reply is the only
way to a reset. Nothing is lost or made up on the way (`response_conserved`), the
host is reset no more often than the reports and the failed crashdumps account for
(`resets_bounded`), and each reset is one that a setting allowed
(`resets_licensed`). To the crashdump every run is one of its own machine.
-/
namespace HostErrorMonitor.Guarantees
open HostErrorMonitor.Source HostErrorMonitor.Spec HostErrorMonitor.Source.DerivedMonitor Reactive

section asking
variable {σ ε : Type} {o : PollOverrides σ ε} {cfg : PollConfig} {asks : ε → Bool}

/-- The call of `assertHandler`, in the trace of a derived monitor. -/
def isDerivedReport : DerivedEvent ε → Bool
  | .base event => isReport event
  | _ => false

/-- The overrides ask in `assertHandler`, once, and nowhere else. -/
structure AsksOnReport (o : PollOverrides σ ε) (asks : ε → Bool) : Prop where
  starting : ∀ peci own, (o.startPolling peci own).2.countP asks = 0
  asserting : ∀ peci own, (o.assertHandler peci own).2.countP asks = 1
  deasserting : ∀ own, (o.deassertHandler own).2.countP asks = 0

theorem asked_own (effects : List ε) :
    (effects.map DerivedEvent.own).countP (isAsked asks) = effects.countP asks := by
  rw [List.countP_map]
  rfl

theorem reported_own (effects : List ε) :
    (effects.map DerivedEvent.own).countP isDerivedReport = 0 := by
  simp [isDerivedReport]

theorem asked_base (events : List PollEvent) :
    (events.map DerivedEvent.base).countP (isAsked asks) = 0 := by
  simp [isAsked]

theorem asks_dispatch (once : AsksOnReport o asks) (peci : Peci) (own : σ) (event : PollEvent) :
    (dispatch o peci own event).2.countP (isAsked asks) =
      (dispatch o peci own event).2.countP isDerivedReport := by
  cases event with
  | assertHandler now timeoutMs =>
    simp only [dispatch, List.countP_cons, asked_own, reported_own, once.asserting]
    rfl
  | deassertHandler =>
    simp only [dispatch, List.countP_cons, asked_own, reported_own, once.deasserting]
    rfl
  | _ => rfl

theorem asks_dispatchAll (once : AsksOnReport o asks) (peci : Peci) (own : σ)
    (events : List PollEvent) :
    (dispatchAll o peci own events).2.countP (isAsked asks) =
      (dispatchAll o peci own events).2.countP isDerivedReport := by
  induction events generalizing own with
  | nil => rfl
  | cons event events ih => simp only [dispatchAll, List.countP_append, asks_dispatch once, ih]

theorem asks_startPolling (once : AsksOnReport o asks) (w : Surroundings) (m : DerivedMonitor σ) :
    (startPolling o cfg w m).2.countP (isAsked asks) =
      (startPolling o cfg w m).2.countP isDerivedReport := by
  simp only [startPolling, List.countP_append, List.countP_cons, asked_own, reported_own,
    once.starting, asks_dispatchAll once, List.countP_replicate]
  rfl

/-- In each step there are as many questions as reports. -/
theorem asks_step (once : AsksOnReport o asks) {m m' : DerivedMonitor σ} {i : DerivedInput}
    {out : List (DerivedEvent ε)} (step : (derivedMachine o cfg).step m i = some (m', out)) :
    out.countP (isAsked asks) = out.countP isDerivedReport := by
  rcases derived_step_cases step with ⟨j, base, events, rfl, inherited, answered, rfl, rfl⟩ |
    ⟨w, m₁, announced, _, hostOn, _, rfl, rfl⟩ | ⟨w, rfl, _, run⟩
  · rw [asked_base]
    rcases (inherited_step inherited answered).1 with rfl | rfl <;> rfl
  · rw [List.countP_append, List.countP_append, asks_startPolling once]
    congr 1
    rw [List.countP_eq_zero.mpr, List.countP_eq_zero.mpr]
    · intro x member
      rw [hostOn x member]
      nofun
    · intro x member
      rw [hostOn x member]
      nofun
  · have polled := asks_dispatchAll once w.peci m.own (BaseGPIOPollMonitor.poll cfg w.poll
      { m.base with timerReady := m.base.timerReady - 1 }).2
    have events : out = (poll o cfg w
        { m with base := { m.base with timerReady := m.base.timerReady - 1 } }).2 := by rw [run]
    rw [events]
    exact polled

theorem asks_initial (once : AsksOnReport o asks) (l : ValidPollLine) (timeoutMs : Nat) (own : σ) :
    (l.initial o cfg timeoutMs own).2.countP (isAsked asks) =
      (l.initial o cfg timeoutMs own).2.countP isDerivedReport := by
  rw [ValidPollLine.initial_eq]
  exact asks_startPolling once _ _

end asking

theorem ierr_asks (lib : Libpeci) : AsksOnReport (IERRMonitor.overrides lib) readsResetOnIERR := by
  constructor <;> intros <;> rfl

theorem err2_asks (n : Nat) (lib : Libpeci) :
    AsksOnReport (Err2Monitor.overrides n lib) readsResetOnERR2 := by
  constructor <;> intros <;> rfl

theorem smi_asks : AsksOnReport SMIMonitor.overrides readsResetOnSMI := by
  constructor <;> intros <;> rfl

/-- A write of IERRTimeoutMs neither asks nor reports. -/
theorem ierr_asks_step {lib : Libpeci} {cfg : PollConfig} {m m' : DerivedMonitor IERRMonitor}
    {i : IERRInput} {out : List (DerivedEvent IERREffect)}
    (step : (ierrMachine lib cfg).step m i = some (m', out)) :
    out.countP (isAsked readsResetOnIERR) = out.countP isDerivedReport := by
  rcases ierr_step_cases step with ⟨j, _, _, step⟩ | ⟨_, _, _, _, rfl⟩ | ⟨_, _, _, _, rfl⟩
  · exact asks_step (ierr_asks lib) step
  · rfl
  · rfl

/-- A reply that ends the wait for a crashdump. -/
def isRejected : CrashdumpEffect → Bool
  | .answered ec => !ec.accepted
  | _ => false

def isAnswered : CrashdumpEffect → Bool
  | .answered _ => true
  | _ => false

/-- A call is good for one recovery, and a failed reply for one more. -/
structure Accounted (c : CrashdumpMonitor × List CrashdumpEffect) : Prop where
  answers : c.2.countP isAnswered + c.1.unanswered = c.2.countP isRequest
  recoveries : c.2.countP isRecovered + c.1.crashdumpCompleteMatch.toNat ≤
    c.2.countP isRequest + c.2.countP isRejected
  rejections : c.2.countP isRejected ≤ c.2.countP isAnswered

theorem accounted_step {c c' : CrashdumpMonitor × List CrashdumpEffect} {i : CrashdumpInput}
    (before : Accounted c) (next : crashdumpMachine.next c i = some c') : Accounted c' := by
  obtain ⟨s, out, step, rfl⟩ := crashdumpMachine.next_some.mp next
  obtain ⟨answers, recoveries, rejections⟩ := before
  have installed : c.1.crashdumpCompleteMatch.toNat ≤ 1 := Bool.toNat_le _
  rcases crashdump_step_cases step with ⟨r, t, rfl, rfl, rfl⟩ | ⟨ec, rfl, waiting, accepted, rfl, rfl⟩ |
    ⟨ec, rfl, waiting, rejected, rfl, rfl⟩ | ⟨rfl, waited, rfl, rfl⟩ | ⟨rfl, _, rfl, rfl⟩
  · constructor <;>
      simp only [List.countP_append, List.countP_singleton, isAnswered, isRequest, isRecovered,
        isRejected, Bool.toNat_true, Bool.false_eq_true, if_true, if_false] <;> omega
  · constructor <;>
      simp only [List.countP_append, List.countP_singleton, isAnswered, isRequest, isRecovered,
        isRejected, accepted, Bool.not_true, Bool.false_eq_true, if_true, if_false] <;> omega
  · constructor <;>
      simp only [List.countP_append, List.countP_cons, List.countP_nil, isAnswered, isRequest,
        isRecovered, isRejected, rejected, Bool.not_false, Bool.toNat_false, Bool.false_eq_true,
        if_true, if_false] <;> omega
  · rw [waited, Bool.toNat_true] at recoveries
    constructor <;>
      simp only [List.countP_append, List.countP_cons, List.countP_nil, isAnswered, isRequest,
        isRecovered, isRejected, Bool.toNat_false, Bool.false_eq_true, if_true, if_false] <;> omega
  · rw [List.append_nil]
    exact ⟨answers, recoveries, rejections⟩

theorem accounted_of_run {is : List CrashdumpInput} {c : CrashdumpMonitor × List CrashdumpEffect}
    (run : crashdumpMachine.exec (.initial, []) is = some c) : Accounted c :=
  crashdumpMachine.invariant (fun _ _ _ before _ next => accounted_step before next)
    (by constructor <;> decide) (crashdumpMachine.along_true _ is) run

section response
variable {p : Platform}

def crashdumpEffect {n : Nat} : ResponseEvent n → Option CrashdumpEffect
  | .crashdump effect => some effect
  | _ => none

/-- What the crashdump did. -/
def crashdumpEffects {n : Nat} (tr : List (ResponseEvent n)) : List CrashdumpEffect :=
  tr.filterMap crashdumpEffect

theorem crashdumpEffects_append {n : Nat} (tr out : List (ResponseEvent n)) :
    crashdumpEffects (tr ++ out) = crashdumpEffects tr ++ crashdumpEffects out :=
  List.filterMap_append

@[simp] theorem crashdumpEffects_crashdump {n : Nat} (effects : List CrashdumpEffect) :
    crashdumpEffects (effects.map (ResponseEvent.crashdump (n := n))) = effects := by
  unfold crashdumpEffects
  rw [List.filterMap_map]
  exact List.filterMap_some

@[simp] theorem crashdumpEffects_nil {n : Nat} :
    crashdumpEffects ([] : List (ResponseEvent n)) = [] := rfl

@[simp] theorem crashdumpEffects_resetOn {n : Nat} (setting : String) (ec : ErrorCode)
    (property : Option Bool) (tr : List (ResponseEvent n)) :
    crashdumpEffects (.resetOn setting ec property :: tr) = crashdumpEffects tr := rfl

@[simp] theorem crashdumpEffects_cons {n : Nat} (effect : CrashdumpEffect)
    (tr : List (ResponseEvent n)) :
    crashdumpEffects (.crashdump effect :: tr) = effect :: crashdumpEffects tr := rfl

theorem crashdumpEffects_none {n : Nat} {α : Type} {f : α → ResponseEvent n}
    (quiet : ∀ x, crashdumpEffect (f x) = none) (out : List α) : crashdumpEffects (out.map f) = [] := by
  unfold crashdumpEffects
  rw [List.filterMap_map, List.filterMap_eq_nil_iff]
  exact fun x _ => quiet x

/-- The inputs of the crashdump that a step answers. -/
def crashdumpInputs : ResponseInput → List CrashdumpInput
  | .resetOnIERR ec property => [resetOnIERRReply ec property]
  | .resetOnERR2 ec property => [resetOnERR2Reply ec property]
  | .generateStoredLogReply ec => [.reply ec]
  | .crashdumpComplete => [.crashdumpComplete]
  | _ => []

/-- The crashdump, in a run of the monitors that share it. -/
def ofCrashdump (c : ErrorResponse p.lib.maxCPUs × List (ResponseEvent p.lib.maxCPUs)) :
    CrashdumpMonitor × List CrashdumpEffect := (c.1.crashdump, crashdumpEffects c.2)

theorem crashdump_called (s : CrashdumpMonitor) (r : RecoveryType) (t : String) :
    crashdumpMachine.step s (.call r t) =
      some (⟨r, true, s.unanswered + 1⟩, [.generateStoredLog r t]) := by
  cases installed : s.crashdumpCompleteMatch <;>
    simp [crashdumpMachine, startCrashdumpAndRecovery, installed]

theorem ofCrashdump_step {c c' : ErrorResponse p.lib.maxCPUs × List (ResponseEvent p.lib.maxCPUs)}
    {i : ResponseInput} (next : p.errorResponse.next c i = some c') :
    crashdumpMachine.exec (ofCrashdump c) (crashdumpInputs i) = some (ofCrashdump c') := by
  obtain ⟨s, out, step, rfl⟩ := p.errorResponse.next_some.mp next
  have unmoved : ∀ {out : List (ResponseEvent p.lib.maxCPUs)}, crashdumpEffects out = [] →
      ofCrashdump c = (c.1.crashdump, crashdumpEffects (c.2 ++ out)) := by
    intro out quiet
    rw [crashdumpEffects_append, quiet, List.append_nil]
    rfl
  have called : ∀ setting ec property r t, crashdumpEffects (c.2 ++
      [.resetOn setting ec property, .crashdump (.generateStoredLog r t)]) =
        crashdumpEffects c.2 ++ [.generateStoredLog r t] :=
    fun setting ec property r t => crashdumpEffects_append c.2 _
  rcases response_step_cases step with ⟨j, m, events, rfl, _, rfl, rfl⟩ |
    ⟨j, m, events, rfl, _, rfl, rfl⟩ | ⟨j, m, events, rfl, _, rfl, rfl⟩ |
    ⟨ec, property, rfl, _, rfl, rfl⟩ | ⟨ec, property, rfl, _, rfl, rfl⟩ |
    ⟨ec, property, rfl, _, rfl, rfl⟩ | ⟨j, crashdump, effects, inputs, moved, rfl, rfl⟩
  · exact congrArg some (unmoved (crashdumpEffects_none (fun _ => rfl) events))
  · exact congrArg some (unmoved (crashdumpEffects_none (fun _ => rfl) events))
  · exact congrArg some (unmoved (crashdumpEffects_none (fun _ => rfl) events))
  · refine crashdumpMachine.exec_cons.mpr
      ⟨_, crashdumpMachine.next_some.mpr ⟨_, _, crashdump_called _ _ _, rfl⟩, ?_⟩
    exact congrArg some (Prod.ext rfl (called _ _ _ _ _).symm)
  · refine crashdumpMachine.exec_cons.mpr
      ⟨_, crashdumpMachine.next_some.mpr ⟨_, _, crashdump_called _ _ _, rfl⟩, ?_⟩
    exact congrArg some (Prod.ext rfl (called _ _ _ _ _).symm)
  · refine congrArg some (unmoved ?_)
    exact crashdumpEffects_none (f := ResponseEvent.startWarmReset) (fun _ => rfl) _
  · have same : crashdumpInputs i = [j] := by
      rcases inputs with ⟨rfl, rfl⟩ | ⟨ec, rfl, rfl⟩ <;> rfl
    rw [same]
    refine crashdumpMachine.exec_cons.mpr ⟨_, crashdumpMachine.next_some.mpr ⟨_, _, moved, rfl⟩, ?_⟩
    simp [ofCrashdump, crashdumpEffects_append]

theorem ofCrashdump_initial (p : Platform) : ofCrashdump p.initial = (.initial, []) := by
  have quiet : crashdumpEffects p.initial.2 = [] := by
    unfold Platform.initial
    rw [crashdumpEffects_append, crashdumpEffects_none (fun _ => rfl),
      crashdumpEffects_none (fun _ => rfl), List.append_nil]
  unfold ofCrashdump
  rw [quiet]
  rfl

/-- To the crashdump, a run of the monitors that share it is one of its own. -/
theorem crashdump_of_run {is : List ResponseInput}
    {c : ErrorResponse p.lib.maxCPUs × List (ResponseEvent p.lib.maxCPUs)}
    (run : p.errorResponse.exec p.initial is = some c) :
    crashdumpMachine.exec (.initial, []) (is.flatMap crashdumpInputs) = some (ofCrashdump c) := by
  obtain ⟨d, same, rfl⟩ := p.errorResponse.exec_project crashdumpMachine
    (fun c d => ofCrashdump c = d) crashdumpInputs
    (fun _ _ _ _ related next => ⟨_, by rw [← related]; exact ofCrashdump_step next, rfl⟩)
    (ofCrashdump_initial p) run
  exact same

section counts
variable {n : Nat}

def ierrReport : ResponseEvent n → Bool
  | .ierr event => isDerivedReport event
  | _ => false

def err2Report : ResponseEvent n → Bool
  | .err2 event => isDerivedReport event
  | _ => false

def smiReport : ResponseEvent n → Bool
  | .smi event => isDerivedReport event
  | _ => false

/-- The crashdump is called for this trigger. -/
def callFor (triggerType : String) : ResponseEvent n → Bool
  | .crashdump (.generateStoredLog _ t) => t == triggerType
  | _ => false

def replyTo (setting : String) : ResponseEvent n → Bool
  | .resetOn s _ _ => s == setting
  | _ => false

/-- The handler of the ResetOnSMI reply resets the host. -/
def resetsOnSMI : ResponseEvent n → Bool
  | .startWarmReset _ => true
  | _ => false

/-- The host is asked to reset. -/
def resetsHost : ResponseEvent n → Bool
  | .crashdump (.recovered _ write) => write.isSome
  | .startWarmReset _ => true
  | _ => false

theorem resetsHost_le (tr : List (ResponseEvent n)) : tr.countP resetsHost ≤
    (crashdumpEffects tr).countP isRecovered + tr.countP resetsOnSMI := by
  have each : ∀ x : ResponseEvent n, resetsHost x = true →
      (crashdumpEffect x).any isRecovered = true ∨ resetsOnSMI x = true := by
    intro x resets
    cases x with
    | crashdump effect =>
      cases effect with
      | recovered recovery write => exact Or.inl rfl
      | _ => cases resets
    | startWarmReset write => exact Or.inr rfl
    | _ => cases resets
  induction tr with
  | nil => simp
  | cons x tr ih =>
    have split : crashdumpEffects (x :: tr) = (crashdumpEffect x).toList ++ crashdumpEffects tr := by
      unfold crashdumpEffects
      rw [List.filterMap_cons]
      cases crashdumpEffect x <;> rfl
    rw [split, List.countP_append, List.countP_cons, List.countP_cons]
    cases resets : resetsHost x with
    | false => simp only [Bool.false_eq_true, if_false]; omega
    | true =>
      rcases each x resets with recovered | direct
      · have counted : (crashdumpEffect x).toList.countP isRecovered = 1 := by
          cases effect : crashdumpEffect x with
          | none => simp [effect] at recovered
          | some effect' => simpa [effect] using recovered
        rw [counted, if_pos rfl]
        omega
      · rw [if_pos rfl, if_pos direct]
        omega

end counts

/-- Each report waits for its setting, or has called the crashdump; ResetOnSMI
calls none. -/
structure Conserved
    (c : ErrorResponse p.lib.maxCPUs × List (ResponseEvent p.lib.maxCPUs)) : Prop where
  ierr : c.2.countP ierrReport = c.2.countP (callFor "IERR") + c.1.ierrReads
  err2 : c.2.countP err2Report = c.2.countP (callFor "ERR2_Timeout") + c.1.err2Reads
  smi : c.2.countP smiReport = c.2.countP (replyTo "ResetOnSMI") + c.1.smiReads
  calls : (crashdumpEffects c.2).countP isRequest =
    c.2.countP (callFor "IERR") + c.2.countP (callFor "ERR2_Timeout")
  resets : c.2.countP resetsOnSMI ≤ c.2.countP (replyTo "ResetOnSMI")

/-- Observations of a kind that is not marked. -/
theorem countP_unmarked {n : Nat} {α : Type} {f : α → ResponseEvent n} {mark : ResponseEvent n → Bool}
    (unmarked : ∀ x, mark (f x) = false) (tr : List (ResponseEvent n)) (out : List α) :
    (tr ++ out.map f).countP mark = tr.countP mark := countP_append_unmarked unmarked tr out

theorem countP_marked {n : Nat} {α : Type} {f : α → ResponseEvent n} {mark : ResponseEvent n → Bool}
    {q : α → Bool} (marked : ∀ x, mark (f x) = q x) (tr : List (ResponseEvent n)) (out : List α) :
    (tr ++ out.map f).countP mark = tr.countP mark + out.countP q :=
  countP_append_marked marked tr out

/-- The crashdump is called by the handlers of the settings replies only. -/
theorem uncalled {s s' : CrashdumpMonitor} {j : CrashdumpInput} {effects : List CrashdumpEffect}
    (uncalled : ∀ r t, j ≠ .call r t) (moved : crashdumpMachine.step s j = some (s', effects)) :
    ∀ x ∈ effects, isRequest x = false := by
  rcases crashdump_step_cases moved with ⟨r, t, same, _⟩ | ⟨ec, _, _, _, rfl, _⟩ |
    ⟨ec, _, _, _, rfl, _⟩ | ⟨_, _, rfl, _⟩ | ⟨_, _, rfl, _⟩
  · exact absurd same (uncalled r t)
  all_goals simp [isRequest]

theorem conserved_step {c c' : ErrorResponse p.lib.maxCPUs × List (ResponseEvent p.lib.maxCPUs)}
    {i : ResponseInput} (before : Conserved c) (next : p.errorResponse.next c i = some c') :
    Conserved c' := by
  obtain ⟨s, out, step, rfl⟩ := p.errorResponse.next_some.mp next
  obtain ⟨ierr, err2, smi, calls, resets⟩ := before
  rcases response_step_cases step with ⟨j, m, events, rfl, own, rfl, rfl⟩ |
    ⟨j, m, events, rfl, own, rfl, rfl⟩ | ⟨j, m, events, rfl, own, rfl, rfl⟩ |
    ⟨ec, property, rfl, waiting, rfl, rfl⟩ | ⟨ec, property, rfl, waiting, rfl, rfl⟩ |
    ⟨ec, property, rfl, waiting, rfl, rfl⟩ | ⟨j, crashdump, effects, inputs, moved, rfl, rfl⟩
  · have asked := ierr_asks_step own
    constructor
    · rw [countP_marked (q := isDerivedReport) (fun _ => rfl), countP_unmarked fun _ => rfl]
      show _ = _ + (c.1.ierrReads + _)
      omega
    · rwa [countP_unmarked fun _ => rfl, countP_unmarked fun _ => rfl]
    · rwa [countP_unmarked fun _ => rfl, countP_unmarked fun _ => rfl]
    · rwa [crashdumpEffects_append, crashdumpEffects_none fun _ => rfl, List.append_nil,
        countP_unmarked fun _ => rfl, countP_unmarked fun _ => rfl]
    · rwa [countP_unmarked fun _ => rfl, countP_unmarked fun _ => rfl]
  · have asked := asks_step (err2_asks _ p.lib) own
    constructor
    · rwa [countP_unmarked fun _ => rfl, countP_unmarked fun _ => rfl]
    · rw [countP_marked (q := isDerivedReport) (fun _ => rfl), countP_unmarked fun _ => rfl]
      show _ = _ + (c.1.err2Reads + _)
      omega
    · rwa [countP_unmarked fun _ => rfl, countP_unmarked fun _ => rfl]
    · rwa [crashdumpEffects_append, crashdumpEffects_none fun _ => rfl, List.append_nil,
        countP_unmarked fun _ => rfl, countP_unmarked fun _ => rfl]
    · rwa [countP_unmarked fun _ => rfl, countP_unmarked fun _ => rfl]
  · have asked := asks_step smi_asks own
    constructor
    · rwa [countP_unmarked fun _ => rfl, countP_unmarked fun _ => rfl]
    · rwa [countP_unmarked fun _ => rfl, countP_unmarked fun _ => rfl]
    · rw [countP_marked (q := isDerivedReport) (fun _ => rfl), countP_unmarked fun _ => rfl]
      show _ = _ + (c.1.smiReads + _)
      omega
    · rwa [crashdumpEffects_append, crashdumpEffects_none fun _ => rfl, List.append_nil,
        countP_unmarked fun _ => rfl, countP_unmarked fun _ => rfl]
    · rwa [countP_unmarked fun _ => rfl, countP_unmarked fun _ => rfl]
  · constructor <;>
      simp [List.countP_cons, ierrReport, err2Report, smiReport, callFor, replyTo, resetsOnSMI,
        isRequest, crashdumpEffects_append] <;> omega
  · constructor <;>
      simp [List.countP_cons, ierrReport, err2Report, smiReport, callFor, replyTo, resetsOnSMI,
        isRequest, crashdumpEffects_append] <;> omega
  · generalize written : (SMIMonitor.resetOnSMIReply ec property).toList = writes
    have few : writes.countP (fun _ => true) ≤ 1 := by
      rw [← written]
      cases SMIMonitor.resetOnSMIReply ec property <;> simp
    rw [← List.singleton_append, ← List.append_assoc]
    constructor
    · rw [countP_unmarked fun _ => rfl, countP_unmarked fun _ => rfl]
      simpa [ierrReport, callFor] using ierr
    · rw [countP_unmarked fun _ => rfl, countP_unmarked fun _ => rfl]
      simpa [err2Report, callFor] using err2
    · rw [countP_unmarked fun _ => rfl, countP_unmarked fun _ => rfl]
      simp [smiReport, replyTo]
      omega
    · rw [crashdumpEffects_append, crashdumpEffects_none fun _ => rfl, List.append_nil,
        countP_unmarked fun _ => rfl, countP_unmarked fun _ => rfl]
      simpa [callFor, crashdumpEffects_append] using calls
    · rw [countP_marked (q := fun _ => true) (fun _ => rfl), countP_unmarked fun _ => rfl]
      simp only [List.countP_append, List.countP_singleton, resetsOnSMI, replyTo, beq_self_eq_true,
        Bool.false_eq_true, if_true, if_false]
      omega
  · have uncallable : ∀ r t, j ≠ .call r t := by
      rintro r t rfl
      rcases inputs with ⟨_, same⟩ | ⟨_, _, same⟩ <;> cases same
    have unrequested := uncalled uncallable moved
    have quiet : ∀ trigger, (c.2 ++ effects.map ResponseEvent.crashdump).countP (callFor trigger) =
        c.2.countP (callFor trigger) := by
      intro trigger
      have none : (effects.map (ResponseEvent.crashdump (n := p.lib.maxCPUs))).countP
          (callFor trigger) = 0 := by
        rw [List.countP_eq_zero]
        intro y member
        obtain ⟨x, among, rfl⟩ := List.mem_map.mp member
        have request := unrequested x among
        cases x with
        | generateStoredLog r t => cases request
        | _ => exact Bool.false_ne_true
      rw [List.countP_append, none, Nat.add_zero]
    constructor
    · rwa [quiet, countP_unmarked fun _ => rfl]
    · rwa [quiet, countP_unmarked fun _ => rfl]
    · rwa [countP_unmarked fun _ => rfl, countP_unmarked fun _ => rfl]
    · have requests : effects.countP isRequest = 0 :=
        List.countP_eq_zero.mpr fun x among => by simp [unrequested x among]
      rwa [quiet, quiet, crashdumpEffects_append, crashdumpEffects_crashdump, List.countP_append,
        requests, Nat.add_zero]
    · rwa [countP_unmarked fun _ => rfl, countP_unmarked fun _ => rfl]

theorem conserved_initial (p : Platform) : Conserved p.initial := by
  generalize constructed : p.initial = c
  generalize ierrBuilt : IERRMonitor.initial p.lib p.ierrConfig p.ierr p.ierrSignal
    p.ierrCustomName = ierr
  generalize smiBuilt : SMIMonitor.initial p.smiConfig p.smi = smi
  have ierrAsked : ierr.2.countP (isAsked readsResetOnIERR) = ierr.2.countP isDerivedReport := by
    rw [← ierrBuilt]
    exact asks_initial (ierr_asks p.lib) p.ierr _ _
  have smiAsked : smi.2.countP (isAsked readsResetOnSMI) = smi.2.countP isDerivedReport := by
    rw [← smiBuilt]
    exact asks_initial smi_asks p.smi _ _
  have trace : c.2 = [] ++ ierr.2.map .ierr ++ smi.2.map .smi := by
    rw [← constructed, ← ierrBuilt, ← smiBuilt]
    rfl
  have reads : c.1.ierrReads = ierr.2.countP (isAsked readsResetOnIERR) ∧ c.1.err2Reads = 0 ∧
      c.1.smiReads = smi.2.countP (isAsked readsResetOnSMI) := by
    rw [← constructed, ← ierrBuilt, ← smiBuilt]
    exact ⟨rfl, rfl, rfl⟩
  obtain ⟨ierrReads, err2Reads, smiReads⟩ := reads
  constructor <;> rw [trace]
  · rw [countP_unmarked fun _ => rfl, countP_marked (q := isDerivedReport) (fun _ => rfl),
      countP_unmarked fun _ => rfl, countP_unmarked fun _ => rfl, ierrReads, ierrAsked]
    rfl
  · rw [countP_unmarked fun _ => rfl, countP_unmarked fun _ => rfl, countP_unmarked fun _ => rfl,
      countP_unmarked fun _ => rfl, err2Reads]
    rfl
  · rw [countP_marked (q := isDerivedReport) (fun _ => rfl), countP_unmarked fun _ => rfl,
      countP_unmarked fun _ => rfl, countP_unmarked fun _ => rfl, smiReads, smiAsked]
    rfl
  · rw [crashdumpEffects_append, crashdumpEffects_append, crashdumpEffects_none fun _ => rfl,
      crashdumpEffects_none fun _ => rfl, countP_unmarked fun _ => rfl, countP_unmarked fun _ => rfl,
      countP_unmarked fun _ => rfl, countP_unmarked fun _ => rfl]
    rfl
  · rw [countP_unmarked fun _ => rfl, countP_unmarked fun _ => rfl, countP_unmarked fun _ => rfl,
      countP_unmarked fun _ => rfl]
    rfl

theorem conserved_of_run {is : List ResponseInput}
    {c : ErrorResponse p.lib.maxCPUs × List (ResponseEvent p.lib.maxCPUs)}
    (run : p.errorResponse.exec p.initial is = some c) : Conserved c :=
  p.errorResponse.invariant (fun _ _ _ before _ next => conserved_step before next)
    (conserved_initial p) (p.errorResponse.along_true _ is) run

/-- In every state of every run each report of IERR or ERR2 waits for its setting or
has called the crashdump, just once; each report of SMI waits for its setting or has
read it; and each call of the crashdump is answered or waits for its answer. A report
that the inherited constructor of ERR2 makes asks for nothing, and is not counted. -/
theorem response_conserved (p : Platform) (is : List ResponseInput) :
    p.errorResponse.Always (fun c =>
      c.2.countP ierrReport = c.2.countP (callFor "IERR") + c.1.ierrReads ∧
      c.2.countP err2Report = c.2.countP (callFor "ERR2_Timeout") + c.1.err2Reads ∧
      c.2.countP smiReport = c.2.countP (replyTo "ResetOnSMI") + c.1.smiReads ∧
      c.2.countP (callFor "IERR") + c.2.countP (callFor "ERR2_Timeout") =
        (crashdumpEffects c.2).countP isAnswered + c.1.crashdump.unanswered) p.initial is := by
  intro pre post c _ run
  have conserved := conserved_of_run run
  have accounted := accounted_of_run (crashdump_of_run run)
  exact ⟨conserved.ierr, conserved.err2, conserved.smi,
    conserved.calls.symm.trans accounted.answers.symm⟩

/-- In every state of every run the host has been asked to reset at most once for each
report, and once more for each crashdump call that failed; a report of IERR or ERR2
accounts for at most one of these. -/
theorem resets_bounded (p : Platform) (is : List ResponseInput) :
    p.errorResponse.Always (fun c =>
      c.2.countP resetsHost ≤ c.2.countP ierrReport + c.2.countP err2Report +
        c.2.countP smiReport + (crashdumpEffects c.2).countP isRejected ∧
      (crashdumpEffects c.2).countP isRejected ≤
        c.2.countP ierrReport + c.2.countP err2Report) p.initial is := by
  intro pre post c _ run
  obtain ⟨ierr, err2, smi, calls, resets⟩ := conserved_of_run run
  have accounted := accounted_of_run (crashdump_of_run run)
  have recoveries : (crashdumpEffects c.2).countP isRecovered ≤
      (crashdumpEffects c.2).countP isRequest + (crashdumpEffects c.2).countP isRejected :=
    Nat.le_trans (Nat.le_add_right _ _) accounted.recoveries
  have answered : (crashdumpEffects c.2).countP isRejected ≤
      (crashdumpEffects c.2).countP isRequest :=
    accounted.rejections.trans (Nat.le.intro accounted.answers)
  have split := resetsHost_le c.2
  constructor <;> omega

/-- IERR, ERR2 and SMI are asserted when the monitors start. -/
def allAsserted : Platform where
  lib := libpeci
  intBits := everySecond.intBits
  intBits_ge := everySecond.intBits_ge
  ierr := assertedLine
  ierrSignal := "CPU_CATERR"
  ierrCustomName := "IERR"
  err2 := assertedLine
  smi := assertedLine

/-- One report resets the host twice: when the crashdump completes, and when the
answer to its call, a failure, comes after that. -/
example : ∃ c,
    allAsserted.errorResponse.exec allAsserted.initial
      [.ierr (.monitor (.inherited (.tick 3000000000))), .ierr (.monitor (.inherited .timerExpires)),
        .ierr (.monitor (.timerHandler ⟨silentPeci, 0, 0, ⟨0, 0, 0, 0⟩⟩)),
        .resetOnIERR ⟨0⟩ (some true), .crashdumpComplete, .generateStoredLogReply ⟨110⟩] = some c ∧
      c.2.countP ierrReport = 1 ∧ c.2.countP resetsHost = 2 :=
  ⟨_, rfl, by decide, by decide⟩

/-- The reply allows a reset. -/
def Allows (ec : ErrorCode) (property : Option Bool) : Prop :=
  ec.failed = false ∧ property = some true

def isCrashdumpSetting {n : Nat} : ResponseEvent n → Bool
  | .resetOn setting _ _ => setting == "ResetOnIERR" || setting == "ResetOnERR2"
  | _ => false

/-- A recovery writes a warm reset if the latest reply for IERR or ERR2 allowed it, and
nothing if not. The handler of the ResetOnSMI reply resets if its own reply allows it. -/
def ResetLicensed {n : Nat} (before : List (ResponseEvent n)) : ResponseEvent n → Prop
  | .crashdump (.recovered _ write) => ∃ setting ec property,
      latest isCrashdumpSetting before = some (.resetOn setting ec property) ∧
        ∀ w, write = some w ↔ Allows ec property ∧ w = startWarmReset
  | .startWarmReset write => write = startWarmReset ∧ ∃ ec property,
      before.getLast? = some (.resetOn "ResetOnSMI" ec property) ∧ Allows ec property
  | _ => True

theorem resetRecovery_writes (ec : ErrorCode) (property : Option Bool) (w : SetProperty) :
    handleRecovery (resetRecovery ec property) = some w ↔ Allows ec property ∧ w = startWarmReset := by
  unfold resetRecovery Allows
  cases failed : ec.failed with
  | true => simp [handleRecovery]
  | false =>
    rcases property with _ | _ | _ <;> simp [handleRecovery, eq_comm]

structure Licensing
    (c : ErrorResponse p.lib.maxCPUs × List (ResponseEvent p.lib.maxCPUs)) : Prop where
  requested : c.1.crashdump.unanswered = 0 ∧ c.1.crashdump.crashdumpCompleteMatch = false ∨
    ∃ setting ec property, latest isCrashdumpSetting c.2 = some (.resetOn setting ec property) ∧
      c.1.crashdump.recovery = resetRecovery ec property
  licensed : Justified ResetLicensed c.2

theorem licensing_unasked {c : ErrorResponse p.lib.maxCPUs × List (ResponseEvent p.lib.maxCPUs)}
    {s : ErrorResponse p.lib.maxCPUs} {out : List (ResponseEvent p.lib.maxCPUs)}
    (before : Licensing c) (same : s.crashdump.recovery = c.1.crashdump.recovery)
    (idle : c.1.crashdump.unanswered = 0 ∧ c.1.crashdump.crashdumpCompleteMatch = false →
      s.crashdump.unanswered = 0 ∧ s.crashdump.crashdumpCompleteMatch = false)
    (unasked : ∀ x ∈ out, isCrashdumpSetting x = false)
    (licensed : Justified ResetLicensed (c.2 ++ out)) : Licensing (s, c.2 ++ out) := by
  refine ⟨?_, licensed⟩
  rw [latest_append_unmarked isCrashdumpSetting _ _ unasked, same]
  exact before.requested.imp idle id

/-- The two handlers that recover use the type of the latest request. -/
theorem licensed_recovered {c : ErrorResponse p.lib.maxCPUs × List (ResponseEvent p.lib.maxCPUs)}
    (before : Licensing c) (x : CrashdumpEffect) (unrecovered : isRecovered x = false)
    (called : ¬ (c.1.crashdump.unanswered = 0 ∧ c.1.crashdump.crashdumpCompleteMatch = false)) :
    Justified ResetLicensed (c.2 ++ [.crashdump x,
      .crashdump (.recovered c.1.crashdump.recovery (handleRecovery c.1.crashdump.recovery))]) := by
  have first : Justified ResetLicensed (c.2 ++ [.crashdump x]) := by
    refine justified_concat ResetLicensed _ _ before.licensed ?_
    cases x with
    | recovered r w => cases unrecovered
    | _ => trivial
  obtain ⟨setting, ec, property, asked, requested⟩ := before.requested.resolve_left called
  have last : ResetLicensed (c.2 ++ [.crashdump x])
      (.crashdump (.recovered c.1.crashdump.recovery (handleRecovery c.1.crashdump.recovery))) := by
    refine ⟨setting, ec, property, ?_, fun w => ?_⟩
    · rw [latest_append_unmarked isCrashdumpSetting _ _ (by simp [isCrashdumpSetting])]
      exact asked
    · rw [requested]
      exact resetRecovery_writes ec property w
  simpa using justified_concat ResetLicensed _ _ first last

theorem licensing_step {c c' : ErrorResponse p.lib.maxCPUs × List (ResponseEvent p.lib.maxCPUs)}
    {i : ResponseInput} (before : Licensing c) (next : p.errorResponse.next c i = some c') :
    Licensing c' := by
  obtain ⟨s, out, step, rfl⟩ := p.errorResponse.next_some.mp next
  have free : ∀ {α : Type} {f : α → ResponseEvent p.lib.maxCPUs} (events : List α),
      (∀ x before, ResetLicensed before (f x)) → Justified ResetLicensed (c.2 ++ events.map f) := by
    intro α f events free
    refine justified_append_free ResetLicensed _ _ before.licensed fun y member pre => ?_
    obtain ⟨x, _, rfl⟩ := List.mem_map.mp member
    exact free x pre
  rcases response_step_cases step with ⟨j, m, events, rfl, own, rfl, rfl⟩ |
    ⟨j, m, events, rfl, own, rfl, rfl⟩ | ⟨j, m, events, rfl, own, rfl, rfl⟩ |
    ⟨ec, property, rfl, waiting, rfl, rfl⟩ | ⟨ec, property, rfl, waiting, rfl, rfl⟩ |
    ⟨ec, property, rfl, waiting, rfl, rfl⟩ | ⟨j, crashdump, effects, inputs, moved, rfl, rfl⟩
  · exact licensing_unasked before rfl id (by simp [isCrashdumpSetting]) (free events fun _ _ => trivial)
  · exact licensing_unasked before rfl id (by simp [isCrashdumpSetting]) (free events fun _ _ => trivial)
  · exact licensing_unasked before rfl id (by simp [isCrashdumpSetting]) (free events fun _ _ => trivial)
  · refine ⟨Or.inr ⟨"ResetOnIERR", ec, property, ?_, rfl⟩, ?_⟩
    · exact latest_append_marked isCrashdumpSetting _ _ _ rfl (by simp [isCrashdumpSetting])
    · refine justified_append_free ResetLicensed _ _ before.licensed fun y member pre => ?_
      rcases List.mem_pair.mp member with rfl | rfl <;> trivial
  · refine ⟨Or.inr ⟨"ResetOnERR2", ec, property, ?_, rfl⟩, ?_⟩
    · exact latest_append_marked isCrashdumpSetting _ _ _ rfl (by simp [isCrashdumpSetting])
    · refine justified_append_free ResetLicensed _ _ before.licensed fun y member pre => ?_
      rcases List.mem_pair.mp member with rfl | rfl <;> trivial
  · refine licensing_unasked before rfl id ?_ ?_
    · intro x member
      rcases List.mem_cons.mp member with rfl | write
      · rfl
      · obtain ⟨_, _, rfl⟩ := List.mem_map.mp write
        rfl
    · have read := justified_concat ResetLicensed c.2 (.resetOn "ResetOnSMI" ec property)
        before.licensed trivial
      cases reset : SMIMonitor.resetOnSMIReply ec property with
      | none => simpa using read
      | some write =>
        obtain ⟨ok, allowed, warm⟩ := SMIMonitor.resetOnSMIReply_some reset
        have licensed := justified_concat ResetLicensed _ (.startWarmReset write) read
          ⟨warm, ec, property, by simp, ok, allowed⟩
        simpa using licensed
  · rcases crashdump_step_cases moved with ⟨r, t, rfl, _⟩ | ⟨ec, rfl, waiting, _, rfl, rfl⟩ |
      ⟨ec, rfl, waiting, _, rfl, rfl⟩ | ⟨rfl, installed, rfl, rfl⟩ | ⟨rfl, _, rfl, rfl⟩
    · rcases inputs with ⟨_, same⟩ | ⟨_, _, same⟩ <;> cases same
    · exact licensing_unasked before rfl (fun idle => absurd idle.1 (by omega))
        (by simp [isCrashdumpSetting]) (justified_concat ResetLicensed _ _ before.licensed trivial)
    · exact licensing_unasked before rfl (fun idle => absurd idle.1 (by omega))
        (by simp [isCrashdumpSetting])
        (licensed_recovered before _ rfl fun idle => absurd idle.1 (by omega))
    · have waited : ¬ (c.1.crashdump.unanswered = 0 ∧
          c.1.crashdump.crashdumpCompleteMatch = false) := by simp [installed]
      exact licensing_unasked before rfl (fun idle => absurd idle waited)
        (by simp [isCrashdumpSetting]) (licensed_recovered before _ rfl waited)
    · exact licensing_unasked before rfl id (by simp)
        (by rw [List.map_nil, List.append_nil]; exact before.licensed)

theorem licensing_initial (p : Platform) : Licensing p.initial := by
  refine ⟨Or.inl ⟨rfl, rfl⟩, ?_⟩
  rw [← List.nil_append p.initial.2]
  refine justified_append_free ResetLicensed _ _ (justified_nil ResetLicensed) fun x member pre => ?_
  unfold Platform.initial at member
  rcases List.mem_append.mp member with ierr | smi
  · obtain ⟨_, _, rfl⟩ := List.mem_map.mp ierr
    trivial
  · obtain ⟨_, _, rfl⟩ := List.mem_map.mp smi
    trivial

/-- In every state of every run each recovery and each reset so far did what the
setting read for it allows: the host is reset only if the latest reply for IERR or
ERR2, or the reply for that SMI timeout, was a success that says so, and the chassis
is never power cycled. -/
theorem resets_licensed (p : Platform) (is : List ResponseInput) :
    p.errorResponse.Always (fun c => Justified ResetLicensed c.2) p.initial is :=
  p.errorResponse.always_of_invariant (I := Licensing)
    (fun _ _ _ before _ next => licensing_step before next) (fun _ before => before.licensed)
    (licensing_initial p) (p.errorResponse.along_true _ is)

end response
end HostErrorMonitor.Guarantees
