import HostErrorMonitor.Guarantees.RecoveryRequests

/-!
# Resets that a later request overrides

A recovery answers to all calls made since the one before, but is of the type
that the latest of them passed. `requests_of_run` keeps the list of those calls
beside the static; `recovery_not_downgraded_iff` reads off when the recovery is
decided by what was asked for and not by the order in which it was asked.
-/
namespace HostErrorMonitor.Guarantees
open HostErrorMonitor.Source Reactive

def askedBy : CrashdumpInput → Option RecoveryType
  | .call requestedRecovery _ => some requestedRecovery
  | _ => none

/-- The types passed by the calls since the wait last ended. -/
def openRequests (is : List CrashdumpInput) : List RecoveryType :=
  (since endsWait is).filterMap askedBy

def askedIn : CrashdumpEffect → Option RecoveryType
  | .generateStoredLog requested _ => some requested
  | _ => none

/-- The types passed by the calls since the last recovery. -/
def requestsSince (before : List CrashdumpEffect) : List RecoveryType :=
  (since isRecovered before).filterMap askedIn

/-- A recovery that answers to calls recovers the host just when one of them asked
for it, in whatever order they came. -/
def NotDowngraded (before : List CrashdumpEffect) : CrashdumpEffect → Prop
  | .recovered recovery _ => requestsSince before ≠ [] →
      (recovery ≠ .noRecovery ↔ ∃ asked ∈ requestsSince before, asked ≠ .noRecovery)
  | _ => True

/-- A call that asks for no recovery is not the latest of calls of which one asks for some. -/
def ResetIsLatest (asked : List RecoveryType) : Prop :=
  (∃ r ∈ asked, r ≠ .noRecovery) → asked.getLast? ≠ some .noRecovery

theorem openRequests_concat (is : List CrashdumpInput) (i : CrashdumpInput) :
    openRequests (is ++ [i]) =
      if endsWait i then [] else openRequests is ++ (askedBy i).toList := by
  unfold openRequests
  cases ends : endsWait i with
  | true => simp [since_concat_marked endsWait is i ends]
  | false =>
    rw [since_append_unmarked endsWait is [i] (by simpa using ends)]
    cases h : askedBy i <;> simp [h]

/-- With the match absent nothing has been asked for since the last recovery. -/
theorem requestsSince_absent {c : CrashdumpMonitor × List CrashdumpEffect} (requested : Requested c)
    (absent : c.1.crashdumpCompleteMatch = false) : requestsSince c.2 = [] := by
  unfold requestsSince
  rw [List.filterMap_eq_nil_iff]
  intro x member
  cases x with
  | generateStoredLog r t =>
    have installed := requested.installed.mpr ⟨r, t, member⟩
    rw [absent] at installed
    cases installed
  | _ => rfl

theorem requestsSince_quiet (tr out : List CrashdumpEffect)
    (unrecovered : ∀ x ∈ out, isRecovered x = false) :
    requestsSince (tr ++ out) = requestsSince tr ++ out.filterMap askedIn := by
  unfold requestsSince
  rw [since_append_unmarked isRecovered tr out unrecovered, List.filterMap_append]

theorem requestsSince_recovered (tr : List CrashdumpEffect) (x : CrashdumpEffect)
    (recovery : RecoveryType) (write : Option SetProperty) :
    requestsSince (tr ++ [x, .recovered recovery write]) = [] := by
  unfold requestsSince
  rw [show [x, .recovered recovery write] = [x] ++ [.recovered recovery write] from rfl,
    since_append_concat_marked isRecovered tr [x] (.recovered recovery write) rfl]
  rfl

/-- The calls since the last recovery are those since the wait last ended, and
the static holds the type of the latest. -/
theorem requests_of_run {is : List CrashdumpInput} {c : CrashdumpMonitor × List CrashdumpEffect}
    (run : crashdumpMachine.exec (.initial, []) is = some c) :
    requestsSince c.2 = openRequests is ∧
      ∀ r, (openRequests is).getLast? = some r → r = c.1.recovery := by
  refine crashdumpMachine.run_induction (fun is c => requestsSince c.2 = openRequests is ∧
    ∀ r, (openRequests is).getLast? = some r → r = c.1.recovery) ?_ ?_ run
  · simp [requestsSince, openRequests]
  · intro is d i c before earlier next
    have requested := requested_of_run before
    obtain ⟨s, out, step, rfl⟩ := crashdumpMachine.next_some.mp next
    rw [openRequests_concat]
    rcases crashdump_step_cases step with ⟨r, t, rfl, rfl, rfl⟩ |
      ⟨ec, rfl, _, accepted, rfl, rfl⟩ | ⟨ec, rfl, _, rejected, rfl, rfl⟩ |
      ⟨rfl, _, rfl, rfl⟩ | ⟨rfl, absent, rfl, rfl⟩
    · simp only [endsWait, Bool.false_eq_true, if_false]
      refine ⟨?_, by simp [askedBy]⟩
      rw [requestsSince_quiet d.2 _ (by simp [isRecovered]), earlier.1]
      rfl
    · simp only [endsWait, accepted, Bool.not_true, Bool.false_eq_true, if_false]
      refine ⟨?_, by simpa [askedBy] using earlier.2⟩
      rw [requestsSince_quiet d.2 _ (by simp [isRecovered]), earlier.1]
      rfl
    · simp only [endsWait, rejected, Bool.not_false, if_true]
      exact ⟨requestsSince_recovered d.2 _ _ _, by simp⟩
    · simp only [endsWait, if_true]
      exact ⟨requestsSince_recovered d.2 _ _ _, by simp⟩
    · simp only [endsWait, if_true]
      rw [List.append_nil]
      exact ⟨requestsSince_absent requested absent, by simp⟩

/-- The latest of the open requests recovers the host just when one of them asks
for it, exactly if no reset is overridden. -/
theorem latest_recovers_iff (asked : List RecoveryType) (recovery : RecoveryType)
    (isLatest : ∀ r, asked.getLast? = some r → r = recovery) :
    (asked ≠ [] → (recovery ≠ .noRecovery ↔ ∃ r ∈ asked, r ≠ .noRecovery)) ↔
      ResetIsLatest asked := by
  unfold ResetIsLatest
  cases last : asked.getLast? with
  | none =>
    rw [List.getLast?_eq_none_iff] at last
    simp [last]
  | some r =>
    have same := isLatest r last
    subst same
    have member : r ∈ asked := List.mem_of_getLast? last
    have some_asked : asked ≠ [] := List.ne_nil_of_mem member
    constructor
    · intro decided reset none_latest
      exact (decided some_asked).mpr reset (Option.some.inj none_latest)
    · intro latest _
      exact ⟨fun reset => ⟨r, member, reset⟩, fun reset none_latest =>
        latest reset (congrArg some none_latest)⟩

/-- What the handler of an ending input leaves in the trace. -/
theorem recovered_on_end {c c' : CrashdumpMonitor × List CrashdumpEffect} {i : CrashdumpInput}
    (ends : endsWait i = true) (open_ : requestsSince c.2 ≠ []) (requested : Requested c)
    (next : crashdumpMachine.next c i = some c') :
    ∃ x, isRecovered x = false ∧ askedIn x = none ∧
      c'.2 = c.2 ++ [x, .recovered c.1.recovery (handleRecovery c.1.recovery)] := by
  obtain ⟨s, out, step, rfl⟩ := crashdumpMachine.next_some.mp next
  rcases crashdump_step_cases step with ⟨r, t, rfl, _, _⟩ | ⟨ec, rfl, _, accepted, _, _⟩ |
    ⟨ec, rfl, _, _, rfl, _⟩ | ⟨rfl, _, rfl, _⟩ | ⟨rfl, absent, _, _⟩
  · cases ends
  · simp [endsWait, accepted] at ends
  · exact ⟨.answered ec, rfl, rfl, rfl⟩
  · exact ⟨.crashdumpCompleted, rfl, rfl, rfl⟩
  · exact absurd (requestsSince_absent requested absent) open_

/-- Every step that adds to a trace in which no recovery was downgraded keeps it
so, unless it ends the wait with a reset overridden. -/
theorem notDowngraded_step {c c' : CrashdumpMonitor × List CrashdumpEffect} {i : CrashdumpInput}
    (sound : Justified NotDowngraded c.2)
    (isLatest : ∀ r, (requestsSince c.2).getLast? = some r → r = c.1.recovery)
    (ok : endsWait i = true → ResetIsLatest (requestsSince c.2))
    (next : crashdumpMachine.next c i = some c') : Justified NotDowngraded c'.2 := by
  obtain ⟨s, out, step, rfl⟩ := crashdumpMachine.next_some.mp next
  have recovered : ∀ x, isRecovered x = false → askedIn x = none →
      ResetIsLatest (requestsSince c.2) →
      Justified NotDowngraded (c.2 ++ [x, .recovered c.1.recovery (handleRecovery c.1.recovery)]) := by
    intro x unrecovered unasked latest
    have first : Justified NotDowngraded (c.2 ++ [x]) := by
      apply justified_concat NotDowngraded c.2 x sound
      cases x with
      | recovered r w => cases unrecovered
      | _ => trivial
    have last : NotDowngraded (c.2 ++ [x])
        (.recovered c.1.recovery (handleRecovery c.1.recovery)) := by
      unfold NotDowngraded
      rw [requestsSince_quiet c.2 [x] (by simpa using unrecovered)]
      simpa [unasked] using (latest_recovers_iff _ _ isLatest).mpr latest
    simpa using justified_concat NotDowngraded _ _ first last
  rcases crashdump_step_cases step with ⟨r, t, rfl, rfl, rfl⟩ | ⟨ec, rfl, _, _, rfl, rfl⟩ |
    ⟨ec, rfl, _, rejected, rfl, rfl⟩ | ⟨rfl, _, rfl, rfl⟩ | ⟨rfl, _, rfl, rfl⟩
  · exact justified_concat NotDowngraded _ _ sound trivial
  · exact justified_concat NotDowngraded _ _ sound trivial
  · exact recovered _ rfl rfl (ok (by simp [endsWait, rejected]))
  · exact recovered _ rfl rfl (ok rfl)
  · rwa [List.append_nil]

/-- In a run no recovery is downgraded, if and only if at every completion signal
and failing reply the latest call since the one before asks for a recovery or
none of these calls does. -/
theorem recovery_not_downgraded_iff (is : List CrashdumpInput)
    (c : CrashdumpMonitor × List CrashdumpEffect)
    (run : crashdumpMachine.exec (.initial, []) is = some c) :
    crashdumpMachine.Always (fun c => Justified NotDowngraded c.2) (.initial, []) is ↔
      ∀ pre i post, is = pre ++ i :: post → endsWait i = true → ResetIsLatest (openRequests pre) := by
  constructor
  · intro always pre i post split ends
    rw [split] at run
    obtain ⟨d, reach, rest⟩ := crashdumpMachine.exec_append.mp run
    obtain ⟨d', next, _⟩ := crashdumpMachine.exec_cons.mp rest
    obtain ⟨traced, isLatest⟩ := requests_of_run reach
    rw [← traced] at isLatest ⊢
    by_cases nothing : requestsSince d.2 = []
    · simp [nothing, ResetIsLatest]
    · obtain ⟨x, unrecovered, unasked, trace⟩ :=
        recovered_on_end ends nothing (requested_of_run reach) next
      have sound := always (pre ++ [i]) post d' (by simp [split])
        (crashdumpMachine.exec_concat.mpr ⟨d, reach, next⟩)
      have last := sound (d.2 ++ [x])
        (.recovered d.1.recovery (handleRecovery d.1.recovery)) [] (by simp [trace])
      unfold NotDowngraded at last
      rw [requestsSince_quiet d.2 [x] (by simpa using unrecovered)] at last
      exact (latest_recovers_iff _ _ isLatest).mp (by simpa [unasked] using last)
  · intro ordered pre post d split reach
    clear run
    induction pre using List.reverseRecOn generalizing d post with
    | nil =>
      cases reach
      exact justified_nil NotDowngraded
    | append_singleton pre i ih =>
      obtain ⟨b, before, next⟩ := crashdumpMachine.exec_concat.mp reach
      have earlier := ih ([i] ++ post) b (by simpa using split) before
      obtain ⟨traced, isLatest⟩ := requests_of_run before
      rw [← traced] at isLatest
      refine notDowngraded_step earlier isLatest (fun ends => ?_) next
      rw [traced]
      exact ordered pre i post (by simpa using split) ends

/-- Two errors one after the other, the one that asks for a reset last. -/
theorem recovery_not_downgraded_reset_last :
    crashdumpMachine.Always (fun c => Justified NotDowngraded c.2) (.initial, [])
      [resetOnERR2Reply ⟨0⟩ (some false), resetOnIERRReply ⟨0⟩ (some true), .crashdumpComplete] :=
  (recovery_not_downgraded_iff _ _ rfl).mpr (by
    rintro (_ | ⟨i, _ | ⟨j, _ | ⟨k, pre⟩⟩⟩) x post split ends <;> simp at split
    · rw [← split.1] at ends
      cases ends
    · rw [← split.2.1] at ends
      cases ends
    · obtain ⟨rfl, rfl, rfl, _⟩ := split
      intro _ none_latest
      exact absurd none_latest (by decide))

/-- ResetOnIERR is on and ResetOnERR2 off: the reset is lost when the reply for ERR2
comes second, and would be carried out if it came first. -/
theorem recovery_downgraded_by_second_error :
    ∃ c, crashdumpMachine.exec (.initial, [])
        [resetOnIERRReply ⟨0⟩ (some true), resetOnERR2Reply ⟨0⟩ (some false), .reply ⟨0⟩,
          .reply ⟨16⟩, .crashdumpComplete] = some c ∧ ¬ Justified NotDowngraded c.2 := by
  refine ⟨_, rfl, fun sound => ?_⟩
  have last := sound
    [.generateStoredLog .warmReset "IERR", .generateStoredLog .noRecovery "ERR2_Timeout",
      .answered ⟨0⟩, .answered ⟨16⟩, .crashdumpCompleted]
    (.recovered .noRecovery none) [] rfl
  exact (last (by decide)).mpr ⟨.warmReset, by decide, by decide⟩ rfl

end HostErrorMonitor.Guarantees
