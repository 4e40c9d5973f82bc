import HostErrorMonitor.Reactive.Trace
import HostErrorMonitor.Spec.CrashdumpService

/-!
# Recoveries while the monitor's own crashdump is outstanding

The completion signal carries no request, so a signal that was sent before the
service handled a call ends the wait for that call. `signal_transit` follows one
signal through the queue: when it is delivered, the unanswered calls are those
that the service had not handled when the crashdump ended and those made since.
`recovery_undisturbed_iff` reads off when no recovery is premature.
-/
namespace HostErrorMonitor.Guarantees
open HostErrorMonitor.Source HostErrorMonitor.Spec Reactive

/-- A step whose completion handler recovers the host finds every call answered
and no crashdump of the monitor running. -/
def RecoversUndisturbed (c : CrashdumpSystem × List CrashdumpEffect) (i : SystemInput) : Prop :=
  ∀ s out, crashdumpSystem.step c.1 i = some (s, out) → .crashdumpCompleted ∈ out →
    c.1.monitor.unanswered = 0 ∧ c.1.running ≠ some .monitor

def isCall : SystemInput → Bool
  | .call _ _ => true
  | _ => false

/-- `b` is the configuration in which a crashdump ended and `d` the one in which
its signal is next to be delivered, with `mid` in between. -/
structure Transit (b d : CrashdumpSystem × List CrashdumpEffect) (mid : List SystemInput) :
    Prop where
  run : crashdumpSystem.exec b (.crashdumpEnds :: mid) = some d
  next : mid.count .deliver = b.1.messages.length

/-- Each call is on its way to the service, or answered on the way back, until
its reply is handled. -/
def CallsAccounted (c : CrashdumpSystem × List CrashdumpEffect) : Prop :=
  c.1.monitor.unanswered = c.1.requests + c.1.messages.countP ServiceMessage.isReply

theorem unanswered_call {s s' : CrashdumpMonitor} {r : RecoveryType} {t : String}
    {out : List CrashdumpEffect} (step : crashdumpMachine.step s (.call r t) = some (s', out)) :
    s'.unanswered = s.unanswered + 1 := by
  rcases crashdump_step_cases step with ⟨_, _, _, _, rfl⟩ | ⟨_, h, _⟩ | ⟨_, h, _⟩ | ⟨h, _⟩ | ⟨h, _⟩
  · rfl
  · cases h
  · cases h
  · cases h
  · cases h

theorem unanswered_message {s s' : CrashdumpMonitor} {message : ServiceMessage}
    {out : List CrashdumpEffect}
    (step : crashdumpMachine.step s message.input = some (s', out)) :
    s'.unanswered + [message].countP ServiceMessage.isReply = s.unanswered := by
  cases message with
  | reply ec =>
    rcases crashdump_step_cases step with ⟨_, _, h, _⟩ | ⟨_, _, waiting, _, _, rfl⟩ |
      ⟨_, _, waiting, _, _, rfl⟩ | ⟨h, _⟩ | ⟨h, _⟩
    · cases h
    · exact Nat.sub_add_cancel waiting
    · exact Nat.sub_add_cancel waiting
    · cases h
    · cases h
  | crashdumpComplete =>
    rcases crashdump_step_cases step with ⟨_, _, h, _⟩ | ⟨_, h, _⟩ | ⟨_, h, _⟩ |
      ⟨_, _, _, rfl⟩ | ⟨_, _, _, rfl⟩
    · cases h
    · cases h
    · cases h
    · rfl
    · rfl

theorem callsAccounted_step (c : CrashdumpSystem × List CrashdumpEffect) (i : SystemInput)
    (c' : CrashdumpSystem × List CrashdumpEffect) (before : CallsAccounted c)
    (next : crashdumpSystem.next c i = some c') : CallsAccounted c' := by
  obtain ⟨s, out, step, rfl⟩ := crashdumpSystem.next_some.mp next
  unfold CallsAccounted at before ⊢
  rcases crashdumpSystem_step_cases step with ⟨r, t, m, rfl, called, rfl⟩ |
    ⟨ec, rfl, pending, rfl, rfl⟩ | ⟨rfl, _, rfl, rfl⟩ | ⟨rfl, rfl, rfl⟩ |
    ⟨message, rest, m, rfl, queue, delivered, rfl⟩
  · have asked := unanswered_call called
    show m.unanswered = c.1.requests + 1 + c.1.messages.countP ServiceMessage.isReply
    omega
  · simp only [List.countP_append]
    have : [ServiceMessage.reply ec].countP ServiceMessage.isReply = 1 := rfl
    omega
  · exact before
  · simp only [List.countP_append]
    have : [ServiceMessage.crashdumpComplete].countP ServiceMessage.isReply = 0 := rfl
    omega
  · have answered := unanswered_message delivered
    rw [queue, show message :: rest = [message] ++ rest from rfl, List.countP_append] at before
    show m.unanswered = c.1.requests + rest.countP ServiceMessage.isReply
    omega

theorem calls_accounted {is : List SystemInput} {c : CrashdumpSystem × List CrashdumpEffect}
    (run : crashdumpSystem.exec (.initial, []) is = some c) : CallsAccounted c := by
  have first : CallsAccounted (.initial, []) := rfl
  exact crashdumpSystem.invariant (fun c i c' before _ => callsAccounted_step c i c' before) first
    (crashdumpSystem.along_true _ is) run

/-- One signal on its way. The messages ahead of it are delivered first; what
queues up behind it answers the calls that the service handles meanwhile. -/
theorem signal_transit {mid : List SystemInput} {e d : CrashdumpSystem × List CrashdumpEffect}
    {ahead behind : List ServiceMessage}
    (queue : e.1.messages = ahead ++ .crashdumpComplete :: behind)
    (own : e.1.running = some .monitor → 0 < behind.countP ServiceMessage.isReply)
    (run : crashdumpSystem.exec e mid = some d) (few : mid.count .deliver ≤ ahead.length) :
    ∃ behind', d.1.messages = ahead.drop (mid.count .deliver) ++ .crashdumpComplete :: behind' ∧
      d.1.requests + behind'.countP ServiceMessage.isReply =
        e.1.requests + behind.countP ServiceMessage.isReply + mid.countP isCall ∧
      (d.1.running = some .monitor → 0 < behind'.countP ServiceMessage.isReply) := by
  induction mid generalizing e ahead behind with
  | nil =>
    cases run
    exact ⟨behind, queue, rfl, own⟩
  | cons i mid ih =>
    obtain ⟨f, next, rest⟩ := crashdumpSystem.exec_cons.mp run
    obtain ⟨s, out, step, rfl⟩ := crashdumpSystem.next_some.mp next
    rcases crashdumpSystem_step_cases step with ⟨r, t, m, rfl, called, rfl⟩ |
      ⟨ec, rfl, pending, rfl, rfl⟩ | ⟨rfl, idle, rfl, rfl⟩ | ⟨rfl, rfl, rfl⟩ |
      ⟨message, tail, m, rfl, head, delivered, rfl⟩
    · obtain ⟨behind', messages, counts, owned⟩ :=
        @ih _ ahead behind (by exact queue) (by exact own) rest (by simpa using few)
      refine ⟨behind', by simpa using messages, ?_, owned⟩
      have : (SystemInput.call r t :: mid).countP isCall = mid.countP isCall + 1 :=
        List.countP_cons_of_pos rfl
      simp only at counts
      omega
    · have one : [ServiceMessage.reply ec].countP ServiceMessage.isReply = 1 := rfl
      obtain ⟨behind', messages, counts, owned⟩ :=
        @ih _ ahead (behind ++ [.reply ec]) (by simp [queue])
          (fun _ => by rw [List.countP_append]; omega) rest (by simpa using few)
      refine ⟨behind', by simpa using messages, ?_, owned⟩
      have : (SystemInput.answer ec :: mid).countP isCall = mid.countP isCall := by simp [isCall]
      rw [List.countP_append] at counts
      simp only at counts
      omega
    · obtain ⟨behind', messages, counts, owned⟩ :=
        @ih _ ahead behind (by exact queue) (by simp) rest (by simpa using few)
      refine ⟨behind', by simpa using messages, ?_, owned⟩
      have : (SystemInput.otherStarts :: mid).countP isCall = mid.countP isCall := by simp [isCall]
      simp only at counts
      omega
    · obtain ⟨behind', messages, counts, owned⟩ :=
        @ih _ ahead (behind ++ [.crashdumpComplete]) (by simp [queue])
          (by simp) rest (by simpa using few)
      refine ⟨behind', by simpa using messages, ?_, owned⟩
      have : (SystemInput.crashdumpEnds :: mid).countP isCall = mid.countP isCall := by
        simp [isCall]
      have : [ServiceMessage.crashdumpComplete].countP ServiceMessage.isReply = 0 := rfl
      rw [List.countP_append] at counts
      simp only at counts
      omega
    · cases ahead with
      | nil => simp at few
      | cons first ahead =>
        rw [queue, List.cons_append] at head
        obtain ⟨_, rfl⟩ := List.cons.inj head
        obtain ⟨behind', messages, counts, owned⟩ :=
          @ih _ ahead behind (by rfl) (by exact own) rest (by simpa using few)
        refine ⟨behind', by simpa using messages, ?_, owned⟩
        have : (SystemInput.deliver :: mid).countP isCall = mid.countP isCall := by simp [isCall]
        simp only at counts
        omega

/-- A signal that is next to be delivered finds unanswered just the calls that
were not handled when it was sent and the calls made since. -/
theorem unanswered_at_delivery {pre mid : List SystemInput}
    {b d : CrashdumpSystem × List CrashdumpEffect}
    (before : crashdumpSystem.exec (.initial, []) pre = some b) (transit : Transit b d mid) :
    ∃ behind, d.1.messages = .crashdumpComplete :: behind ∧
      d.1.monitor.unanswered = b.1.requests + mid.countP isCall ∧
      (d.1.running = some .monitor → 0 < d.1.monitor.unanswered) := by
  obtain ⟨e, sent, after⟩ := crashdumpSystem.exec_cons.mp transit.run
  have accounted : CallsAccounted d :=
    calls_accounted (crashdumpSystem.exec_append.mpr ⟨b, before, transit.run⟩)
  obtain ⟨s, out, step, rfl⟩ := crashdumpSystem.next_some.mp sent
  rcases crashdumpSystem_step_cases step with ⟨_, _, _, h, _⟩ | ⟨_, h, _⟩ | ⟨h, _⟩ |
    ⟨_, rfl, rfl⟩ | ⟨_, _, _, h, _⟩
  · cases h
  · cases h
  · cases h
  · obtain ⟨behind, messages, counts, owned⟩ :=
      @signal_transit mid _ d b.1.messages [] rfl (fun h => by cases h) after (Nat.le_of_eq transit.next)
    rw [transit.next, List.drop_length, List.nil_append] at messages
    have none_ahead : d.1.messages.countP ServiceMessage.isReply =
        behind.countP ServiceMessage.isReply := by
      rw [messages]
      rfl
    simp only [List.countP_nil] at counts
    unfold CallsAccounted at accounted
    refine ⟨behind, messages, by omega, fun running => ?_⟩
    have := owned running
    omega
  · cases h

/-- The signal in the queue of `c` behind `ahead` was sent in the run `is`. -/
def SentIn (is : List SystemInput) (c : CrashdumpSystem × List CrashdumpEffect)
    (ahead : List ServiceMessage) : Prop :=
  ∃ pre mid b, is = pre ++ .crashdumpEnds :: mid ∧
    crashdumpSystem.exec (.initial, []) pre = some b ∧
    crashdumpSystem.exec b (.crashdumpEnds :: mid) = some c ∧
    mid.count .deliver + ahead.length = b.1.messages.length

/-- A signal that was sent before a step was sent before the next one. -/
theorem sentIn_concat {is : List SystemInput} {d c : CrashdumpSystem × List CrashdumpEffect}
    {i : SystemInput} {ahead ahead' : List ServiceMessage} (sent : SentIn is d ahead')
    (next : crashdumpSystem.next d i = some c)
    (moved : [i].count .deliver + ahead.length = ahead'.length) : SentIn (is ++ [i]) c ahead := by
  obtain ⟨pre, mid, b, split, reach, transit, position⟩ := sent
  refine ⟨pre, mid ++ [i], b, by simp [split], reach, ?_, ?_⟩
  · exact @Machine.exec_concat _ _ _ crashdumpSystem b c (.crashdumpEnds :: mid) i |>.mpr
      ⟨d, transit, next⟩
  · rw [List.count_append]
    omega

/-- Every signal in the queue was sent in the run. -/
theorem signal_was_sent {is : List SystemInput} {c : CrashdumpSystem × List CrashdumpEffect}
    (run : crashdumpSystem.exec (.initial, []) is = some c) :
    ∀ ahead behind, c.1.messages = ahead ++ .crashdumpComplete :: behind → SentIn is c ahead := by
  refine crashdumpSystem.run_induction (fun is c => ∀ ahead behind,
    c.1.messages = ahead ++ .crashdumpComplete :: behind → SentIn is c ahead) ?_ ?_ run
  · intro ahead behind queue
    simp [CrashdumpSystem.initial] at queue
  · intro is d i c before earlier next ahead behind queue
    have last := next
    obtain ⟨s, out, step, rfl⟩ := crashdumpSystem.next_some.mp next
    rcases crashdumpSystem_step_cases step with ⟨r, t, m, rfl, called, rfl⟩ |
      ⟨ec, rfl, pending, rfl, rfl⟩ | ⟨rfl, idle, rfl, rfl⟩ | ⟨rfl, rfl, rfl⟩ |
      ⟨message, rest, m, rfl, head, delivered, rfl⟩
    · exact sentIn_concat (earlier ahead behind queue) last (by simp)
    · rcases append_eq_mark _ _ _ _ _ queue with ⟨behind', queued, _⟩ | ⟨mid, _, tail⟩
      · exact sentIn_concat (earlier ahead behind' queued) last (by simp)
      · have member : ServiceMessage.crashdumpComplete ∈ [ServiceMessage.reply ec] := by
          rw [tail]
          simp
        simp at member
    · exact sentIn_concat (earlier ahead behind queue) last (by simp)
    · rcases append_eq_mark _ _ _ _ _ queue with ⟨behind', queued, _⟩ | ⟨mid, split, tail⟩
      · exact sentIn_concat (earlier ahead behind' queued) last (by simp)
      · -- this is the signal that the step has sent
        have alone : mid = [] := by
          cases mid with
          | nil => rfl
          | cons x mid => simp at tail
        subst alone
        exact ⟨is, [], d, rfl, before, crashdumpSystem.exec_cons.mpr ⟨_, last, rfl⟩,
          by simp [split]⟩
    · have queued : d.1.messages = (message :: ahead) ++ .crashdumpComplete :: behind := by
        rw [head]
        simpa using queue
      exact sentIn_concat (earlier (message :: ahead) behind queued) last (by simp [Nat.add_comm])

/-- The completion handler recovers only when the signal that is next finds the match. -/
theorem recovers_at_delivery {c : CrashdumpSystem × List CrashdumpEffect} {i : SystemInput}
    {s : CrashdumpSystem} {out : List CrashdumpEffect}
    (step : crashdumpSystem.step c.1 i = some (s, out)) (completed : .crashdumpCompleted ∈ out) :
    i = .deliver ∧ c.1.monitor.crashdumpCompleteMatch = true ∧
      ∃ behind, c.1.messages = .crashdumpComplete :: behind := by
  rcases crashdumpSystem_step_cases step with ⟨r, t, m, rfl, called, rfl⟩ |
    ⟨ec, rfl, _, rfl, _⟩ | ⟨rfl, _, rfl, _⟩ | ⟨rfl, rfl, _⟩ |
    ⟨message, rest, m, rfl, head, delivered, rfl⟩
  · cases called
    simp at completed
  · cases completed
  · cases completed
  · cases completed
  · refine ⟨rfl, ?_⟩
    rcases crashdump_step_cases delivered with ⟨_, _, h, rfl, _⟩ | ⟨_, _, _, _, rfl, _⟩ |
      ⟨_, _, _, _, rfl, _⟩ | ⟨signal, installed, _, _⟩ | ⟨_, _, rfl, _⟩
    · simp at completed
    · simp at completed
    · simp at completed
    · cases message with
      | reply ec => cases signal
      | crashdumpComplete => exact ⟨installed, rest, head⟩
    · cases completed

/-- In every run, no recovery from the completion handler is premature if and
only if every signal that finds the match installed was sent when the service
had handled all calls made so far, with no call made until its delivery. -/
theorem recovery_undisturbed_iff (is : List SystemInput) :
    crashdumpSystem.Along RecoversUndisturbed (.initial, []) is ↔
      ∀ pre mid post b d, is = pre ++ .crashdumpEnds :: mid ++ .deliver :: post →
        crashdumpSystem.exec (.initial, []) pre = some b → Transit b d mid →
        d.1.monitor.crashdumpCompleteMatch = true →
        b.1.requests = 0 ∧ ∀ r t, .call r t ∉ mid := by
  have no_call : ∀ mid : List SystemInput, (∀ r t, SystemInput.call r t ∉ mid) ↔ mid.countP isCall = 0 := by
    intro mid
    rw [List.countP_eq_zero]
    constructor
    · intro absent i member called
      cases i with
      | call r t => exact absent r t member
      | _ => cases called
    · intro absent r t member
      exact absent _ member rfl
  constructor
  · intro along pre mid post b d split before transit installed
    rw [split] at along
    have reached := crashdumpSystem.exec_append.mpr ⟨b, before, transit.run⟩
    have undisturbed := crashdumpSystem.along_at along reached
    obtain ⟨behind, messages, outstanding, _⟩ := unanswered_at_delivery before transit
    have step : crashdumpSystem.step d.1 .deliver =
        some ({ d.1 with
            monitor := { d.1.monitor with crashdumpCompleteMatch := false }
            messages := behind },
          [.crashdumpCompleted,
            .recovered d.1.monitor.recovery (handleRecovery d.1.monitor.recovery)]) := by
      simp [crashdumpSystem, messages, ServiceMessage.input, crashdumpMachine, crashdumpComplete,
        installed]
    have answered := (undisturbed _ _ step (by simp)).1
    rw [no_call]
    omega
  · intro ordered
    have every : ∀ pre i post d, is = pre ++ i :: post →
        crashdumpSystem.exec (.initial, []) pre = some d → RecoversUndisturbed d i := by
      intro pre i post d split reached s out step completed
      obtain ⟨rfl, installed, behind, messages⟩ := recovers_at_delivery step completed
      obtain ⟨sent, mid, b, rfl, before, transit, position⟩ :=
        signal_was_sent reached [] behind messages
      have transit : Transit b d mid := ⟨transit, by simpa using position⟩
      obtain ⟨_, _, outstanding, owned⟩ := unanswered_at_delivery before transit
      have handled := ordered sent mid post b d split before transit installed
      rw [no_call] at handled
      refine ⟨by omega, fun running => ?_⟩
      have := owned running
      omega
    exact crashdumpSystem.along_of_steps every

/-- The crashdump of another client ends while the call is on its way: the call
is accepted, and the signal of the other crashdump resets the host meanwhile. -/
theorem recovery_during_own_crashdump :
    ¬ crashdumpSystem.Along RecoversUndisturbed (.initial, [])
      [.otherStarts, .call .warmReset "IERR", .crashdumpEnds, .answer ⟨0⟩, .deliver] := by
  intro along
  have undisturbed := @Machine.along_at _ _ _ crashdumpSystem _ _ _
    [.otherStarts, .call .warmReset "IERR", .crashdumpEnds, .answer ⟨0⟩] [] .deliver along rfl
  exact absurd (undisturbed _ _ rfl (by simp)).1 (by decide)

end HostErrorMonitor.Guarantees
