import HostErrorMonitor.Guarantees.CrashdumpRecovery

/-!
# What a recovery answers to

The match and the requested type are two statics that every call and both
handlers share. `requested_of_run` says what they hold: the match is installed
exactly while a call has been made since the last recovery, and the type is that
of the latest call. Whether each recovery has a request of its own then depends
on what a failing reply finds: `recovery_not_duplicated` says how.
-/
namespace HostErrorMonitor.Guarantees
open HostErrorMonitor.Source Reactive

def isRequest : CrashdumpEffect → Bool
  | .generateStoredLog _ _ => true
  | _ => false

/-- The match is installed just while a call has been made since the last recovery. -/
def InstalledWhileRequested (c : CrashdumpMonitor × List CrashdumpEffect) : Prop :=
  c.1.crashdumpCompleteMatch = true ↔ ∃ r t, .generateStoredLog r t ∈ since isRecovered c.2

/-- A recovery is of the type that the latest call passed. -/
def UsesLatest (before : List CrashdumpEffect) : CrashdumpEffect → Prop
  | .recovered recovery write => write = handleRecovery recovery ∧
      ∃ t, latest isRequest before = some (.generateStoredLog recovery t)
  | _ => True

structure Requested (c : CrashdumpMonitor × List CrashdumpEffect) : Prop where
  installed : InstalledWhileRequested c
  latest : c.1.unanswered = 0 ∧ c.1.crashdumpCompleteMatch = false ∨
    ∃ t, latest isRequest c.2 = some (.generateStoredLog c.1.recovery t)
  uses : Justified UsesLatest c.2

/-- A recovery forgets the calls before it. -/
theorem installed_after_recovery (recovery : RecoveryType) (unanswered : Nat)
    (tr out : List CrashdumpEffect) (used : RecoveryType) (write : Option SetProperty) :
    InstalledWhileRequested (⟨recovery, false, unanswered⟩,
      tr ++ (out ++ [.recovered used write])) := by
  unfold InstalledWhileRequested
  rw [since_append_concat_marked isRecovered tr out (.recovered used write) rfl]
  simp

/-- Each of the two handlers that recover does it with the type of the latest call. -/
theorem usesLatest_recovered {s : CrashdumpMonitor} {tr : List CrashdumpEffect}
    (x : CrashdumpEffect) (quiet : isRequest x = false) (unrecovered : isRecovered x = false)
    (uses : Justified UsesLatest tr)
    (asked : ∃ t, latest isRequest tr = some (.generateStoredLog s.recovery t)) :
    Justified UsesLatest (tr ++ [x, .recovered s.recovery (handleRecovery s.recovery)]) := by
  have first : Justified UsesLatest (tr ++ [x]) := by
    apply justified_concat UsesLatest tr x uses
    cases x with
    | recovered r w => cases unrecovered
    | _ => trivial
  have last : UsesLatest (tr ++ [x]) (.recovered s.recovery (handleRecovery s.recovery)) := by
    refine ⟨rfl, ?_⟩
    rw [latest_append_unmarked isRequest tr [x] (by simpa using quiet)]
    exact asked
  simpa using justified_concat UsesLatest _ _ first last

theorem requested_step {c c' : CrashdumpMonitor × List CrashdumpEffect} {i : CrashdumpInput}
    (requested : Requested c) (next : crashdumpMachine.next c i = some c') : Requested c' := by
  obtain ⟨s, out, step, rfl⟩ := crashdumpMachine.next_some.mp next
  have kept : ∀ out : List CrashdumpEffect, (∀ x ∈ out, isRequest x = false) →
      (∃ t, latest isRequest c.2 = some (.generateStoredLog c.1.recovery t)) →
      ∃ t, latest isRequest (c.2 ++ out) = some (.generateStoredLog c.1.recovery t) := by
    intro out quiet asked
    rw [latest_append_unmarked isRequest c.2 out quiet]
    exact asked
  rcases crashdump_step_cases step with ⟨r, t, rfl, rfl, rfl⟩ | ⟨ec, rfl, waiting, _, rfl, rfl⟩ |
    ⟨ec, rfl, waiting, _, rfl, rfl⟩ | ⟨rfl, installed, rfl, rfl⟩ | ⟨rfl, _, rfl, rfl⟩
  · refine ⟨?_, Or.inr ⟨t, latest_append_marked isRequest c.2 [] _ rfl (by simp)⟩, ?_⟩
    · unfold InstalledWhileRequested
      rw [since_append_unmarked isRecovered c.2 _ (by simp [isRecovered])]
      simp only [true_iff]
      exact ⟨r, t, by simp⟩
    · exact justified_concat UsesLatest _ _ requested.uses trivial
  · refine ⟨?_, requested.latest.imp (fun idle => absurd idle.1 (by omega)) ?_, ?_⟩
    · have installed := requested.installed
      unfold InstalledWhileRequested at installed ⊢
      rw [since_append_unmarked isRecovered c.2 _ (by simp [isRecovered])]
      simpa using installed
    · exact kept [.answered ec] (by simp [isRequest])
    · exact justified_concat UsesLatest _ _ requested.uses trivial
  · have asked := requested.latest.resolve_left fun idle => absurd idle.1 (by omega)
    refine ⟨installed_after_recovery _ _ c.2 [.answered ec] _ _, Or.inr ?_, ?_⟩
    · exact kept [.answered ec, _] (by simp [isRequest]) asked
    · exact usesLatest_recovered _ rfl rfl requested.uses asked
  · have asked := requested.latest.resolve_left fun idle => by
      rw [installed] at idle
      cases idle.2
    refine ⟨installed_after_recovery _ _ c.2 [.crashdumpCompleted] _ _, Or.inr ?_, ?_⟩
    · exact kept [.crashdumpCompleted, _] (by simp [isRequest]) asked
    · exact usesLatest_recovered _ rfl rfl requested.uses asked
  · rw [List.append_nil]
    exact requested

theorem requested_initial : Requested (.initial, []) := by
  refine ⟨?_, Or.inl ⟨rfl, rfl⟩, justified_nil UsesLatest⟩
  simp [InstalledWhileRequested, CrashdumpMonitor.initial]

theorem requested_of_run {is : List CrashdumpInput} {c : CrashdumpMonitor × List CrashdumpEffect}
    (run : crashdumpMachine.exec (.initial, []) is = some c) : Requested c :=
  crashdumpMachine.invariant (fun _ _ _ requested _ next => requested_step requested next)
    requested_initial (crashdumpMachine.along_true _ is) run

/-- A failing reply finds the match still installed: no recovery has been run for
the calls made so far. -/
def FailsWhileInstalled (c : CrashdumpMonitor × List CrashdumpEffect) : CrashdumpInput → Prop
  | .reply ec => 0 < c.1.unanswered → ec.accepted = false → c.1.crashdumpCompleteMatch = true
  | _ => True

instance (c : CrashdumpMonitor × List CrashdumpEffect) (i : CrashdumpInput) :
    Decidable (FailsWhileInstalled c i) :=
  match i with
  | .reply _ => inferInstanceAs (Decidable (_ → _ → _))
  | .call _ _ | .crashdumpComplete => .isTrue trivial

/-- A recovery has a request of its own, made since the recovery before it. -/
def OwnRequest (before : List CrashdumpEffect) : CrashdumpEffect → Prop
  | .recovered _ _ => ∃ r t, .generateStoredLog r t ∈ since isRecovered before
  | _ => True

/-- A handler that recovers while the match is installed answers to a request of its own. -/
theorem ownRequest_recovered {c : CrashdumpMonitor × List CrashdumpEffect} (x : CrashdumpEffect)
    (recovery : RecoveryType) (write : Option SetProperty) (unrecovered : isRecovered x = false)
    (owned : Justified OwnRequest c.2) (requested : Requested c)
    (installed : c.1.crashdumpCompleteMatch = true) :
    Justified OwnRequest (c.2 ++ [x, .recovered recovery write]) := by
  have first : Justified OwnRequest (c.2 ++ [x]) := by
    apply justified_concat OwnRequest c.2 x owned
    cases x with
    | recovered r w => cases unrecovered
    | _ => trivial
  have last : OwnRequest (c.2 ++ [x]) (.recovered recovery write) := by
    obtain ⟨r, t, member⟩ := requested.installed.mp installed
    refine ⟨r, t, ?_⟩
    rw [since_append_unmarked isRecovered c.2 [x] (by simpa using unrecovered)]
    exact List.mem_append_left _ member
  simpa using justified_concat OwnRequest _ _ first last

theorem ownRequest_step {c c' : CrashdumpMonitor × List CrashdumpEffect} {i : CrashdumpInput}
    (requested : Requested c) (owned : Justified OwnRequest c.2) (ok : FailsWhileInstalled c i)
    (next : crashdumpMachine.next c i = some c') : Justified OwnRequest c'.2 := by
  obtain ⟨s, out, step, rfl⟩ := crashdumpMachine.next_some.mp next
  rcases crashdump_step_cases step with ⟨r, t, rfl, rfl, rfl⟩ | ⟨ec, rfl, _, _, rfl, rfl⟩ |
    ⟨ec, rfl, waiting, rejected, rfl, rfl⟩ | ⟨rfl, installed, rfl, rfl⟩ | ⟨rfl, _, rfl, rfl⟩
  · exact justified_concat OwnRequest _ _ owned trivial
  · exact justified_concat OwnRequest _ _ owned trivial
  · exact ownRequest_recovered _ _ _ rfl owned requested (ok waiting rejected)
  · exact ownRequest_recovered _ _ _ rfl owned requested installed
  · rwa [List.append_nil]

/-- Every recovery of a run has a request of its own, if and only if every
failing reply finds the match installed. -/
theorem own_request_iff (is : List CrashdumpInput) :
    crashdumpMachine.Always (fun c => Justified OwnRequest c.2) (.initial, []) is ↔
      crashdumpMachine.Along FailsWhileInstalled (.initial, []) is := by
  constructor
  · intro always
    refine crashdumpMachine.along_of_steps fun pre i post d split reach => ?_
    cases i with
    | reply ec =>
      intro waiting rejected
      have next : crashdumpMachine.next d (.reply ec) = some (_, d.2 ++ _) :=
        crashdumpMachine.next_some.mpr ⟨_, _, by
          simp only [crashdumpMachine, waiting, if_true]
          rw [reply_rejected d.1 ec rejected], rfl⟩
      have owned := always (pre ++ [.reply ec]) post _ (by simp [split])
        (crashdumpMachine.exec_concat.mpr ⟨d, reach, next⟩)
      obtain ⟨r, t, member⟩ := owned (d.2 ++ [.answered ec])
        (.recovered d.1.recovery (handleRecovery d.1.recovery)) [] (by simp)
      rw [since_append_unmarked isRecovered d.2 _ (by simp [isRecovered])] at member
      exact (requested_of_run reach).installed.mpr ⟨r, t, by simpa using member⟩
    | _ => trivial
  · intro along
    exact crashdumpMachine.always_of_invariant (I := fun c => Requested c ∧ Justified OwnRequest c.2)
      (fun c i c' before ok next => ⟨requested_step before.1 next,
        ownRequest_step before.1 before.2 ok next⟩)
      (fun _ both => both.2) ⟨requested_initial, justified_nil OwnRequest⟩ along

/-- No recovery is run twice for a request in a run whose failing replies all find
the match installed: in every state there are at most as many recoveries as calls.
And just in these runs each recovery has a call of its own since the one before. -/
theorem recovery_not_duplicated (is : List CrashdumpInput) :
    (crashdumpMachine.Along FailsWhileInstalled (.initial, []) is →
      crashdumpMachine.Always (fun c => c.2.countP isRecovered ≤ c.2.countP isRequest)
        (.initial, []) is) ∧
    (crashdumpMachine.Always (fun c => Justified OwnRequest c.2) (.initial, []) is ↔
      crashdumpMachine.Along FailsWhileInstalled (.initial, []) is) := by
  refine ⟨fun along pre post c split reach => ?_, own_request_iff is⟩
  have owned := (own_request_iff is).mpr along pre post c split reach
  refine countP_le_of_justified isRecovered isRequest c.2 fun before x after split marked => ?_
  cases x with
  | recovered r w =>
    obtain ⟨r, t, member⟩ := owned before _ after split
    exact ⟨_, member, rfl⟩
  | _ => cases marked

/-- The first call fails, and the second is served by its completion signal. -/
def failedThenServed : List CrashdumpInput :=
  [.call .warmReset "IERR", .reply ⟨110⟩, .call .noRecovery "ERR2_Timeout", .reply ⟨0⟩,
    .crashdumpComplete]

theorem recovery_not_duplicated_after_failure :
    (crashdumpMachine.exec (.initial, []) failedThenServed).isSome = true ∧
    crashdumpMachine.Always (fun c => c.2.countP isRecovered ≤ c.2.countP isRequest) (.initial, [])
      failedThenServed :=
  ⟨by decide, (recovery_not_duplicated failedThenServed).1 (by decide)⟩

/-- A completion signal serves the request; the call's own reply, an error that
comes later, recovers a second time. -/
theorem recovery_duplicated_after_completion :
    ∃ c, crashdumpMachine.exec (.initial, [])
        [.call .warmReset "IERR", .crashdumpComplete, .reply ⟨110⟩] = some c ∧
      ¬ c.2.countP isRecovered ≤ c.2.countP isRequest :=
  ⟨_, rfl, by decide⟩

end HostErrorMonitor.Guarantees
