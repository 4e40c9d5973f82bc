import HostErrorMonitor.Reactive.OrderedCounter
import HostErrorMonitor.Guarantees.ErrorCount

/-!
# Error counts only rise, each by its own increments

With the replies delivered in the order of the calls, the values that increments
write to a count reach the service in the order in which they were read. However
the increments overlap and whichever calls fail, no write then lowers a count, and
a count is what the increments of its own CPU make of it.
-/
namespace HostErrorMonitor.Guarantees
open HostErrorMonitor.Source HostErrorMonitor.Spec Reactive

/-- Of the replies on their way back, the oldest is delivered. -/
def InOrder : SettingsInput → Prop
  | .deliver position => position = 0
  | _ => True

instance (i : SettingsInput) : Decidable (InOrder i) :=
  match i with
  | .deliver position => inferInstanceAs (Decidable (position = 0))
  | .increment _ | .handle _ => .isTrue trivial

/-- The calls in the order in which the service will handle them; those that the
replies on their way back will send come last. -/
def lineUp (s : SettingsSystem) : List SettingsCall :=
  s.requests ++ s.replies.filterMap SettingsReply.sends

/-- One count, with the values still to be written to it. -/
def queuedCount (property : String) (s : SettingsSystem) : OrderedCounter where
  stored := (s.counts property).toNat
  targets := (lineUp s).filterMap (targetFor property)

/-- The next call leaves the line, and what its reply will send joins it. -/
theorem queuedCount_handled (property : String) {s : SettingsSystem} {call : SettingsCall}
    {rest : List SettingsCall} (requests : s.requests = call :: rest)
    (counts : String → BitVec 8) (reply : SettingsReply) :
    ∃ others, (queuedCount property s).targets = [call].filterMap (targetFor property) ++ others ∧
      (queuedCount property ⟨counts, rest, s.replies ++ [reply]⟩).targets =
        others ++ reply.sends.toList.filterMap (targetFor property) := by
  have sent : [reply].filterMap SettingsReply.sends = reply.sends.toList := by
    cases h : reply.sends <;> simp [h]
  refine ⟨(rest ++ s.replies.filterMap SettingsReply.sends).filterMap (targetFor property), ?_, ?_⟩
  · simp only [queuedCount, lineUp, requests]
    rw [← List.filterMap_append]
    rfl
  · simp only [queuedCount, lineUp]
    rw [List.filterMap_append (l := s.replies), sent, ← List.append_assoc, List.filterMap_append]

/-- A read of the count is handled. -/
theorem queuedCount_read (property : String) {s : SettingsSystem} (ec : ErrorCode)
    {rest : List SettingsCall} (requests : s.requests = .get property :: rest) :
    (queuedCount property s).step 255 (if ec.failed then .readFails else .reads) =
      some (queuedCount property ⟨s.counts, rest,
        s.replies ++ [.get property ec (if ec.failed then none else some (s.counts property))]⟩) := by
  obtain ⟨others, before, after⟩ := queuedCount_handled property requests s.counts
    (.get property ec (if ec.failed then none else some (s.counts property)))
  have nothing : [SettingsCall.get property].filterMap (targetFor property) = [] := rfl
  rw [nothing, List.nil_append] at before
  cases failed : ec.failed with
  | true =>
    rw [failed] at after
    simp only [if_true, SettingsReply.sends, errorCountReply, failed, Option.toList_none,
      List.filterMap_nil, List.append_nil] at after
    simp only [if_true, OrderedCounter.step, Option.some.injEq]
    ext1
    · rfl
    · exact before.trans after.symm
  | false =>
    rw [failed] at after
    simp only [Bool.false_eq_true, if_false, SettingsReply.sends] at after
    rw [targets_of_read property ec (s.counts property) failed] at after
    simp only [Bool.false_eq_true, if_false, OrderedCounter.step, Option.some.injEq]
    ext1
    · rfl
    · rw [after, ← before]
      rfl

/-- A write of the count is handled. -/
theorem queuedCount_write (property : String) {s : SettingsSystem} (ec : ErrorCode)
    {rest : List SettingsCall} {value : BitVec 8} (requests : s.requests = .set property value :: rest) :
    (queuedCount property s).step 255
        (if ec.failed then .writeFails value.toNat else .writes value.toNat) =
      some (queuedCount property ⟨if ec.failed then s.counts else Function.update s.counts property value,
        rest, s.replies ++ [.set property ec]⟩) := by
  obtain ⟨others, before, after⟩ := queuedCount_handled property requests
    (if ec.failed then s.counts else Function.update s.counts property value) (.set property ec)
  have target : [SettingsCall.set property value].filterMap (targetFor property) = [value.toNat] := by
    simp [targetFor]
  rw [target, List.singleton_append] at before
  simp only [SettingsReply.sends, Option.toList_none, List.filterMap_nil, List.append_nil] at after
  cases failed : ec.failed with
  | true =>
    rw [failed, if_pos rfl] at after
    simp only [if_true, OrderedCounter.step, before, Option.some.injEq]
    ext1
    · rfl
    · exact after.symm
  | false =>
    rw [failed, if_neg Bool.false_ne_true] at after
    simp only [Bool.false_eq_true, if_false, OrderedCounter.step, before, if_true,
      Option.some.injEq]
    ext1
    · simp [queuedCount]
    · exact after.symm

/-- A call for another property that is handled leaves the count and its line alone. -/
theorem queuedCount_other (property : String) {s : SettingsSystem} (ec : ErrorCode)
    {call : SettingsCall} {rest : List SettingsCall} (requests : s.requests = call :: rest)
    (other : call.property ≠ property) :
    queuedCount property s = queuedCount property
      ⟨(answer s.counts ec call).1, rest, s.replies ++ [(answer s.counts ec call).2]⟩ := by
  obtain ⟨others, before, after⟩ := queuedCount_handled property requests (answer s.counts ec call).1
    (answer s.counts ec call).2
  obtain ⟨unwritten, unsent⟩ := other_silent s.counts ec other
  rw [unwritten, List.nil_append] at before
  rw [unsent, List.append_nil] at after
  ext1
  · show (s.counts property).toNat = ((answer s.counts ec call).1 property).toNat
    rw [answer_other s.counts ec other]
  · exact before.trans after.symm

/-- Every step of the system, with replies delivered in order, is one of each count. -/
theorem queuedCount_step (property : String) {s s' : SettingsSystem} {i : SettingsInput}
    {out : List SettingsCall} (inOrder : InOrder i) (step : settingsSystem.step s i = some (s', out)) :
    (queuedCount property s).step 255 (counterEvent property s i) = some (queuedCount property s') := by
  rcases settings_step_cases step with ⟨cpu, rfl, rfl⟩ | ⟨ec, call, rest, rfl, requests, rfl⟩ |
    ⟨position, reply, rfl, present, rfl⟩
  · have same : queuedCount property { s with requests := s.requests ++ [incrementCPUErrorCount cpu] } =
        queuedCount property s := by
      simp [queuedCount, lineUp, incrementCPUErrorCount, List.filterMap_cons, targetFor]
    rw [same]
    by_cases own : errorCountProperty cpu = property
    · simp [counterEvent, own, OrderedCounter.step]
    · simp [counterEvent, own, OrderedCounter.step]
  · by_cases own : call.property = property
    · subst own
      cases call with
      | get read =>
        have handled := queuedCount_read read ec requests
        simpa [counterEvent, requests, SettingsCall.property, answer] using handled
      | set written value =>
        have handled := queuedCount_write written ec requests
        simpa [counterEvent, requests, SettingsCall.property, answer] using handled
    · rw [counterEvent_other ec requests own, queuedCount_other property ec requests own]
      rfl
  · cases inOrder
    obtain ⟨later, replies⟩ : ∃ later, s.replies = reply :: later := by
      cases h : s.replies with
      | nil => simp [h] at present
      | cons first later =>
        rw [h] at present
        cases present
        exact ⟨later, rfl⟩
    have same : lineUp { s with
        requests := s.requests ++ reply.sends.toList
        replies := s.replies.eraseIdx 0 } = lineUp s := by
      cases sent : reply.sends <;> simp [lineUp, replies, sent]
    show some (queuedCount property s) = _
    unfold queuedCount
    rw [same]

/-- A step lowers no count, and changes one only where it handles a Set call for it. -/
def RisesByOwnSet (c : SettingsSystem × List SettingsCall) (i : SettingsInput) : Prop :=
  ∀ c', settingsSystem.next c i = some c' → ∀ property,
    (c.1.counts property).toNat ≤ (c'.1.counts property).toNat ∧
    ¬ (c.1.counts property = 255#8 ∧ c'.1.counts property = 0#8) ∧
    (c'.1.counts property ≠ c.1.counts property →
      ∃ ec value rest, i = .handle ec ∧ c.1.requests = .set property value :: rest)

theorem changed_by_set {s s' : SettingsSystem} {i : SettingsInput} {out : List SettingsCall}
    {property : String} (step : settingsSystem.step s i = some (s', out))
    (changed : s'.counts property ≠ s.counts property) :
    ∃ ec value rest, i = .handle ec ∧ s.requests = .set property value :: rest := by
  rcases settings_step_cases step with ⟨cpu, rfl, rfl⟩ | ⟨ec, call, rest, rfl, requests, rfl⟩ |
    ⟨position, reply, rfl, present, rfl⟩
  · exact absurd rfl changed
  · by_cases own : call.property = property
    · cases call with
      | get read => exact absurd rfl changed
      | set written value =>
        cases own
        exact ⟨ec, value, rest, rfl, requests⟩
    · exact absurd (answer_other s.counts ec own) changed
  · exact absurd rfl changed

/-- What is still to be written to any count is in order. -/
def QueuedInOrder (c : SettingsSystem × List SettingsCall) : Prop :=
  ∀ property, (queuedCount property c.1).Rising

theorem queuedInOrder_step {c c' : SettingsSystem × List SettingsCall} {i : SettingsInput}
    (ordered : QueuedInOrder c) (inOrder : InOrder i) (next : settingsSystem.next c i = some c') :
    QueuedInOrder c' := by
  obtain ⟨s', out, step, rfl⟩ := settingsSystem.next_some.mp next
  intro property
  exact (OrderedCounter.rising_step (ordered property) (queuedCount_step property inOrder step)).1

theorem along_inOrder {c : SettingsSystem × List SettingsCall} {is : List SettingsInput}
    (inOrder : ∀ i ∈ is, InOrder i) : settingsSystem.Along (fun _ i => InOrder i) c is := by
  apply settingsSystem.along_of_steps
  intro pre i post _ split _
  exact inOrder i (by simp [split])

/-- Every step of a run with replies delivered in order rises by its own Set calls. -/
theorem rises_by_own_set {counts : String → BitVec 8} {is : List SettingsInput}
    (inOrder : ∀ i ∈ is, InOrder i) :
    settingsSystem.Along RisesByOwnSet (.initial counts, []) is := by
  apply settingsSystem.along_of_steps
  intro pre i post d split reach c' next property
  have earlier : ∀ j ∈ pre, InOrder j := fun j member => inOrder j (by simp [split, member])
  have first : QueuedInOrder (.initial counts, []) := fun _ => OrderedCounter.rising_initial _
  have ordered : QueuedInOrder d := settingsSystem.invariant
    (fun _ _ _ ordered ok next => queuedInOrder_step ordered ok next) first
    (along_inOrder earlier) reach
  obtain ⟨s', out, step, rfl⟩ := settingsSystem.next_some.mp next
  have moved := queuedCount_step property (inOrder i (by simp [split])) step
  have rises : (d.1.counts property).toNat ≤ (s'.counts property).toNat :=
    (OrderedCounter.rising_step (ordered property) moved).2
  refine ⟨rises, ?_, changed_by_set step⟩
  intro wraps
  rw [wraps.1, wraps.2] at rises
  exact absurd rises (by decide)

/-- The input is part of an increment of the count. -/
def concerns (property : String) (s : SettingsSystem) : SettingsInput → Bool
  | .increment cpuNum => errorCountProperty cpuNum == property
  | .handle _ => s.requests.head?.any (·.property == property)
  | .deliver position => s.replies[position]?.any (·.property == property)

/-- The second system is the first as one count sees it. -/
structure OwnPart (property : String) (s t : SettingsSystem) : Prop where
  count : t.counts property = s.counts property
  requests : t.requests = s.requests.filter (·.property == property)
  replies : t.replies = s.replies.filter (·.property == property)

/-- What is sent for a property is kept as a whole or not at all. -/
theorem sends_filter (property : String) (reply : SettingsReply) :
    reply.sends.toList.filter (·.property == property) =
      if reply.property == property then reply.sends.toList else [] := by
  cases sent : reply.sends with
  | none => simp
  | some call => simp [List.filter_cons, sends_property sent]

theorem oldest_reply {s : SettingsSystem} {reply : SettingsReply} (present : s.replies[0]? = some reply) :
    s.replies = reply :: s.replies.eraseIdx 0 := by
  cases h : s.replies with
  | nil => simp [h] at present
  | cons first later =>
    rw [h] at present
    cases present
    rfl

/-- A step of an increment of the count is answered by its own part. -/
theorem ownPart_answers {property : String} {s s' t : SettingsSystem} {i : SettingsInput}
    {out : List SettingsCall} (own : OwnPart property s t) (inOrder : InOrder i)
    (concerned : concerns property s i = true) (step : settingsSystem.step s i = some (s', out)) :
    ∃ t' out', settingsSystem.step t i = some (t', out') ∧ OwnPart property s' t' := by
  obtain ⟨count, requests, replies⟩ := own
  rcases settings_step_cases step with ⟨cpu, rfl, rfl⟩ | ⟨ec, call, rest, rfl, waiting, rfl⟩ |
    ⟨position, reply, rfl, present, rfl⟩
  · refine ⟨_, _, rfl, count, ?_, replies⟩
    have same : (incrementCPUErrorCount cpu).property == property := concerned
    simp [requests, same]
  · have same : call.property = property := by simpa [concerns, waiting] using concerned
    have first : t.requests = call :: rest.filter (·.property == property) := by
      rw [requests, waiting, List.filter_cons_of_pos (by simp [same])]
    have answers : (answer t.counts ec call).2 = (answer s.counts ec call).2 ∧
        (answer t.counts ec call).1 property = (answer s.counts ec call).1 property := by
      subst same
      cases call with
      | get read =>
        have count : t.counts read = s.counts read := count
        exact ⟨by simp [answer, count], count⟩
      | set written value =>
        refine ⟨rfl, ?_⟩
        cases failed : ec.failed
        · simp [answer, failed, SettingsCall.property]
        · simpa [answer, failed] using count
    refine ⟨⟨(answer t.counts ec call).1, rest.filter (·.property == property),
      t.replies ++ [(answer t.counts ec call).2]⟩, [], ?_, answers.2, rfl, ?_⟩
    · simp only [settingsSystem, first]
    · simp [replies, answers.1, answer_property, same]
  · cases inOrder
    have same : reply.property = property := by simpa [concerns, present] using concerned
    have oldest := oldest_reply present
    have first : t.replies = reply :: (s.replies.eraseIdx 0).filter (·.property == property) := by
      rw [replies, oldest, List.filter_cons_of_pos (by simp [same])]
      rfl
    refine ⟨⟨t.counts, t.requests ++ reply.sends.toList,
      (s.replies.eraseIdx 0).filter (·.property == property)⟩, reply.sends.toList, ?_, count, ?_, rfl⟩
    · simp [settingsSystem, first]
    · simp [requests, sends_filter, same]

/-- A step of an increment of another count is not seen. -/
theorem ownPart_unseen {property : String} {s s' t : SettingsSystem} {i : SettingsInput}
    {out : List SettingsCall} (own : OwnPart property s t) (inOrder : InOrder i)
    (unconcerned : concerns property s i = false)
    (step : settingsSystem.step s i = some (s', out)) : OwnPart property s' t := by
  obtain ⟨count, requests, replies⟩ := own
  rcases settings_step_cases step with ⟨cpu, rfl, rfl⟩ | ⟨ec, call, rest, rfl, waiting, rfl⟩ |
    ⟨position, reply, rfl, present, rfl⟩
  · refine ⟨count, ?_, replies⟩
    have other : ((incrementCPUErrorCount cpu).property == property) = false := unconcerned
    simp [requests, other]
  · have other : call.property ≠ property := by simpa [concerns, waiting] using unconcerned
    refine ⟨count.trans (answer_other s.counts ec other).symm, ?_, ?_⟩
    · rw [requests, waiting, List.filter_cons_of_neg (by simp [other])]
    · simp [replies, answer_property, other]
  · cases inOrder
    have other : reply.property ≠ property := by simpa [concerns, present] using unconcerned
    refine ⟨count, ?_, ?_⟩
    · simp [requests, sends_filter, other]
    · conv => lhs; rw [replies, oldest_reply present]
      rw [List.filter_cons_of_neg (by simp [other])]

/-- The increments of one CPU in a run, with everything that is done for them. -/
def ownInputs (counts : String → BitVec 8) (cpuNum : Nat) (is : List SettingsInput) :
    List SettingsInput :=
  settingsSystem.keeping (concerns (errorCountProperty cpuNum)) (.initial counts, []) is

/-- The count of a CPU is what its own increments alone would have made of it. -/
structure CountedByOwn (counts : String → BitVec 8) (cpuNum : Nat) (is : List SettingsInput)
    (s : SettingsSystem) : Prop where
  others : ∀ other, .increment other ∈ ownInputs counts cpuNum is → other = cpuNum
  all : increments cpuNum (ownInputs counts cpuNum is) = increments cpuNum is
  count : ∃ d, settingsSystem.exec (.initial counts, []) (ownInputs counts cpuNum is) = some d ∧
    d.1.counts (errorCountProperty cpuNum) = s.counts (errorCountProperty cpuNum)

theorem counted_by_own {counts : String → BitVec 8} {is : List SettingsInput}
    {c : SettingsSystem × List SettingsCall}
    (run : settingsSystem.exec (.initial counts, []) is = some c) (inOrder : ∀ i ∈ is, InOrder i)
    (cpuNum : Nat) : CountedByOwn counts cpuNum is c.1 := by
  refine ⟨fun other member => ?_, ?_, ?_⟩
  · obtain ⟨s, kept⟩ := settingsSystem.mem_keeping member
    exact errorCountProperty_inj (by simpa [concerns] using kept)
  · show (ownInputs counts cpuNum is).countP (· == .increment cpuNum) =
      is.countP (· == .increment cpuNum)
    apply settingsSystem.countP_keeping _ run
    intro s i same
    rw [eq_of_beq same]
    exact beq_self_eq_true _
  · have start : OwnPart (errorCountProperty cpuNum) (.initial counts) (.initial counts) :=
      ⟨rfl, rfl, rfl⟩
    obtain ⟨d, own, part⟩ : ∃ d, settingsSystem.exec (.initial counts, [])
        (ownInputs counts cpuNum is) = some d ∧ OwnPart (errorCountProperty cpuNum) c.1 d.1 :=
      settingsSystem.exec_keeping (concerns (errorCountProperty cpuNum))
        (OwnPart (errorCountProperty cpuNum))
        (fun _ _ _ _ _ part ok kept step => ownPart_answers part ok kept step)
        (fun _ _ _ _ _ part ok kept step => ownPart_unseen part ok kept step)
        start (along_inOrder inOrder) run
    exact ⟨d, own, part.count⟩

/-- With replies delivered in order, whichever calls fail: no Set call lowers a
count or wraps it; a count never exceeds its first value and the increments begun
for its CPU; and those of the other CPUs do not matter to it. -/
theorem counts_rise_by_own_increments (counts : String → BitVec 8) (is : List SettingsInput)
    (c : SettingsSystem × List SettingsCall)
    (run : settingsSystem.exec (.initial counts, []) is = some c) (inOrder : ∀ i ∈ is, InOrder i) :
    settingsSystem.Along RisesByOwnSet (.initial counts, []) is ∧
    ∀ cpuNum, (c.1.counts (errorCountProperty cpuNum)).toNat ≤
        (counts (errorCountProperty cpuNum)).toNat + increments cpuNum is ∧
      CountedByOwn counts cpuNum is c.1 := by
  refine ⟨rises_by_own_set inOrder, fun cpuNum => ⟨?_, counted_by_own run inOrder cpuNum⟩⟩
  have bound := (@within_of_run counts cpuNum is c run).stored
  simp only [tally] at bound
  omega

/-- Increments of two CPUs that overlap, one of them with a Set call that fails. -/
def overlappingIncrements : List SettingsInput :=
  [.increment 0, .increment 1, .increment 0, .handle ⟨0⟩, .handle ⟨0⟩, .handle ⟨0⟩, .deliver 0,
    .deliver 0, .handle ⟨5⟩, .deliver 0, .handle ⟨0⟩, .handle ⟨0⟩]

theorem counts_rise_in_overlap : ∃ c,
    settingsSystem.exec (.initial fun _ => 254#8, []) overlappingIncrements = some c ∧
    settingsSystem.Along RisesByOwnSet (.initial fun _ => 254#8, []) overlappingIncrements ∧
    ∀ cpuNum, (c.1.counts (errorCountProperty cpuNum)).toNat ≤
        254 + increments cpuNum overlappingIncrements ∧
      CountedByOwn (fun _ => 254#8) cpuNum overlappingIncrements c.1 :=
  ⟨_, rfl, counts_rise_by_own_increments (fun _ => 254#8) overlappingIncrements _ rfl (by decide)⟩

end HostErrorMonitor.Guarantees
