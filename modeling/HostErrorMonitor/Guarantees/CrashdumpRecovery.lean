import HostErrorMonitor.Reactive.Trace
import HostErrorMonitor.Source.Crashdump

/-!
# Recoveries that the crashdump service accepted

The match is installed exactly while a call has been made since the last event
that ends the wait: a completion signal or a failing reply. An accepted call is
therefore waited for as long as it was answered inside that stretch. When a
completion or the failing reply of another call comes between a call and its
own answer, the match is gone, although the handler of that answer says that it
waits for the completion signal. `accepted_awaited_iff` gives the exact condition
on the order of events.
-/
namespace HostErrorMonitor.Guarantees
open HostErrorMonitor.Source Reactive

def isRecovered : CrashdumpEffect → Bool
  | .recovered _ _ => true
  | _ => false

/-- The events after which nothing is waited for until the next call. -/
def endsWait : CrashdumpInput → Bool
  | .call _ _ => false
  | .reply ec => !ec.accepted
  | .crashdumpComplete => true

/-- A call has been made since the wait last ended. -/
def OpenCall (is : List CrashdumpInput) : Prop := ∃ r t, .call r t ∈ since endsWait is

/-- An accepted call that no recovery has followed has its completion handler in
place, and the next CrashdumpComplete signal runs the recovery. -/
def AcceptedAwaited (c : CrashdumpMonitor × List CrashdumpEffect) : Prop :=
  (∃ ec, .answered ec ∈ since isRecovered c.2 ∧ ec.accepted = true) →
    c.1.crashdumpCompleteMatch = true ∧
      .recovered c.1.recovery (handleRecovery c.1.recovery) ∈ (crashdumpComplete c.1).2

theorem openCall_concat (is : List CrashdumpInput) (i : CrashdumpInput) :
    OpenCall (is ++ [i]) ↔ endsWait i = false ∧ ((∃ r t, i = .call r t) ∨ OpenCall is) := by
  unfold OpenCall
  cases ends : endsWait i with
  | true => simp [since_concat_marked endsWait is i ends]
  | false =>
    rw [since_append_unmarked endsWait is [i] (by simpa using ends)]
    simp only [List.mem_append, List.mem_singleton, true_and]
    constructor
    · rintro ⟨r, t, member | rfl⟩
      · exact Or.inr ⟨r, t, member⟩
      · exact Or.inl ⟨r, t, rfl⟩
    · rintro (⟨r, t, rfl⟩ | ⟨r, t, member⟩)
      · exact ⟨r, t, Or.inr rfl⟩
      · exact ⟨r, t, Or.inl member⟩

/-- The match is installed exactly while a call is open. -/
theorem match_iff_openCall {is : List CrashdumpInput} {c : CrashdumpMonitor × List CrashdumpEffect}
    (run : crashdumpMachine.exec (.initial, []) is = some c) :
    c.1.crashdumpCompleteMatch = true ↔ OpenCall is := by
  refine crashdumpMachine.run_induction
    (fun is c => c.1.crashdumpCompleteMatch = true ↔ OpenCall is) ?_ ?_ run
  · simp [OpenCall, CrashdumpMonitor.initial]
  · intro is d i c _ earlier next
    obtain ⟨s, out, step, rfl⟩ := crashdumpMachine.next_some.mp next
    rw [openCall_concat]
    rcases crashdump_step_cases step with ⟨r, t, rfl, _, rfl⟩ | ⟨ec, rfl, _, accepted, _, rfl⟩ |
      ⟨ec, rfl, _, rejected, _, rfl⟩ | ⟨rfl, _, _, rfl⟩ | ⟨rfl, absent, _, rfl⟩
    · simp [endsWait]
    · simp [endsWait, accepted, earlier]
    · simp [endsWait, rejected]
    · simp [endsWait]
    · simp [endsWait, absent]

/-- Once a recovery has run, no answer before it is waited for. -/
theorem awaited_after_recovery (s : CrashdumpMonitor) (tr out : List CrashdumpEffect)
    (recovery : RecoveryType) (write : Option SetProperty) :
    AcceptedAwaited (s, tr ++ (out ++ [.recovered recovery write])) := by
  rintro ⟨ec, member, _⟩
  rw [since_append_concat_marked isRecovered tr out (.recovered recovery write) rfl] at member
  cases member

/-- In every state of a run an accepted call is awaited, if and only if every
success or busy reply comes while a call is open: between the last completion
signal or failing reply before it and the reply itself, a call has been made. -/
theorem accepted_awaited_iff (is : List CrashdumpInput)
    (c : CrashdumpMonitor × List CrashdumpEffect)
    (run : crashdumpMachine.exec (.initial, []) is = some c) :
    crashdumpMachine.Always AcceptedAwaited (.initial, []) is ↔
      ∀ pre ec post, is = pre ++ .reply ec :: post → ec.accepted = true → OpenCall pre := by
  constructor
  · intro always pre ec post split accepted
    rw [split] at run
    obtain ⟨d, before, last⟩ := crashdumpMachine.exec_append.mp run
    obtain ⟨d', next, _⟩ := crashdumpMachine.exec_cons.mp last
    have reached : crashdumpMachine.exec (.initial, []) (pre ++ [.reply ec]) = some d' :=
      crashdumpMachine.exec_concat.mpr ⟨d, before, next⟩
    have awaited := always (pre ++ [.reply ec]) post d' (by simp [split]) reached
    have answered : ∃ ec, .answered ec ∈ since isRecovered d'.2 ∧ ec.accepted = true := by
      obtain ⟨s, out, step, rfl⟩ := crashdumpMachine.next_some.mp next
      refine ⟨ec, ?_, accepted⟩
      rcases crashdump_step_cases step with ⟨r, t, h, _⟩ | ⟨ec', h, _, _, rfl, _⟩ |
        ⟨ec', h, _, rejected, _⟩ | ⟨h, _⟩ | ⟨h, _⟩
      · cases h
      · cases h
        rw [since_append_unmarked isRecovered d.2 _ (by simp [isRecovered])]
        simp
      · cases h
        simp [accepted] at rejected
      · cases h
      · cases h
    have installed := (match_iff_openCall reached).mp (awaited answered).1
    rw [openCall_concat] at installed
    rcases installed.2 with ⟨r, t, h⟩ | h
    · cases h
    · exact h
  · intro open_ pre post d split reached
    clear run
    induction pre using List.reverseRecOn generalizing d post with
    | nil =>
      cases reached
      rintro ⟨ec, member, _⟩
      simp at member
    | append_singleton pre i ih =>
      obtain ⟨b, before, next⟩ := crashdumpMachine.exec_concat.mp reached
      have earlier := ih ([i] ++ post) b (by simpa using split) before
      have installed := match_iff_openCall before
      obtain ⟨s, out, step, rfl⟩ := crashdumpMachine.next_some.mp next
      rcases crashdump_step_cases step with ⟨r, t, rfl, rfl, rfl⟩ |
        ⟨ec, rfl, _, accepted, rfl, rfl⟩ | ⟨ec, rfl, _, rejected, rfl, rfl⟩ |
        ⟨rfl, _, rfl, rfl⟩ | ⟨rfl, absent, rfl, rfl⟩
      · intro _
        simp [crashdumpComplete]
      · intro _
        have still := installed.mpr (open_ pre ec post (by simpa using split) accepted)
        simp [crashdumpComplete, still]
      · exact awaited_after_recovery _ b.2 [.answered ec] b.1.recovery _
      · exact awaited_after_recovery _ b.2 [.crashdumpCompleted] b.1.recovery _
      · simpa using earlier

/-- A run in order: the call is accepted and its completion comes last. -/
theorem accepted_awaited_in_order :
    crashdumpMachine.Always AcceptedAwaited (.initial, [])
      [.call .warmReset "IERR", .reply ⟨0⟩, .crashdumpComplete] :=
  (accepted_awaited_iff _ _ rfl).mpr (by
    rintro (_ | ⟨i, _ | ⟨j, _ | ⟨k, pre⟩⟩⟩) ec post split accepted <;> simp at split
    obtain ⟨rfl, rfl, _⟩ := split
    exact ⟨.warmReset, "IERR", by decide⟩)

/-- Two monitors call; the failing reply of the one call removes the match that
the other still relies on, and its success is answered with no match installed. -/
theorem accepted_not_awaited :
    ∃ c, crashdumpMachine.exec (.initial, [])
        [.call .warmReset "IERR", .call .noRecovery "ERR2_Timeout", .reply ⟨5⟩, .reply ⟨0⟩] =
          some c ∧ ¬ AcceptedAwaited c := by
  refine ⟨_, rfl, fun awaited => ?_⟩
  have installed := (awaited ⟨⟨0⟩, by decide, by decide⟩).1
  exact absurd installed (by decide)

end HostErrorMonitor.Guarantees
