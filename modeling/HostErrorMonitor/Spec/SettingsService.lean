import HostErrorMonitor.Reactive.Machine
import HostErrorMonitor.Reactive.SharedCounter
import HostErrorMonitor.Source.ErrorCount

/-!
The Settings service as the error counts need it, and the monitor's calls to it.
The service handles calls in the order they were sent and puts its replies on
the way back; a reply may be delivered before others that were sent earlier.
`tally` reads one count off the system as a shared counter, and `tally_step`
says that every step of the system is a step of that counter.
-/
namespace HostErrorMonitor.Spec
open HostErrorMonitor.Source Reactive

inductive SettingsReply where
  | get (property : String) (ec : ErrorCode) (value : Option (BitVec 8))
  | set (property : String) (ec : ErrorCode)
  deriving DecidableEq, Repr

def SettingsReply.property : SettingsReply → String
  | .get property _ _ => property
  | .set property _ => property

/-- What the handler of a reply sends. -/
def SettingsReply.sends : SettingsReply → Option SettingsCall
  | .get property ec value => errorCountReply property ec value
  | .set _ _ => none

/-- `requests` are not handled yet and `replies` not delivered, oldest first. -/
structure SettingsSystem where
  counts : String → BitVec 8
  requests : List SettingsCall
  replies : List SettingsReply

def SettingsSystem.initial (counts : String → BitVec 8) : SettingsSystem := ⟨counts, [], []⟩

inductive SettingsInput where
  | increment (cpuNum : Nat)
  | handle (ec : ErrorCode)
  | deliver (position : Nat)
  deriving DecidableEq, Repr

/-- The service answers a call; a call that fails changes nothing. -/
def answer (counts : String → BitVec 8) (ec : ErrorCode) :
    SettingsCall → (String → BitVec 8) × SettingsReply
  | .get property => (counts, .get property ec (if ec.failed then none else some (counts property)))
  | .set property value =>
    (if ec.failed then counts else Function.update counts property value, .set property ec)

def settingsSystem : Machine SettingsSystem SettingsInput SettingsCall where
  step s
    | .increment cpuNum =>
      let call := incrementCPUErrorCount cpuNum
      some ({ s with requests := s.requests ++ [call] }, [call])
    | .handle ec =>
      match s.requests with
      | [] => none
      | call :: rest =>
        let (counts, reply) := answer s.counts ec call
        some ({ counts := counts, requests := rest, replies := s.replies ++ [reply] }, [])
    | .deliver position =>
      match s.replies[position]? with
      | none => none
      | some reply =>
        some ({ s with
          requests := s.requests ++ reply.sends.toList
          replies := s.replies.eraseIdx position }, reply.sends.toList)

/-- What one step can do, guards included. -/
theorem settings_step_cases {s s' : SettingsSystem} {i : SettingsInput} {out : List SettingsCall}
    (step : settingsSystem.step s i = some (s', out)) :
    (∃ cpu, i = .increment cpu ∧
      s' = { s with requests := s.requests ++ [incrementCPUErrorCount cpu] }) ∨
    (∃ ec call rest, i = .handle ec ∧ s.requests = call :: rest ∧
      s' = ⟨(answer s.counts ec call).1, rest, s.replies ++ [(answer s.counts ec call).2]⟩) ∨
    (∃ position reply, i = .deliver position ∧ s.replies[position]? = some reply ∧
      s' = { s with
        requests := s.requests ++ reply.sends.toList
        replies := s.replies.eraseIdx position }) := by
  cases i with
  | increment cpu =>
    cases step
    exact Or.inl ⟨cpu, rfl, rfl⟩
  | handle ec =>
    simp only [settingsSystem] at step
    split at step
    · cases step
    next call rest requests =>
      cases step
      exact Or.inr (Or.inl ⟨ec, call, rest, rfl, requests, rfl⟩)
  | deliver position =>
    simp only [settingsSystem] at step
    split at step
    · cases step
    next reply present =>
      cases step
      exact Or.inr (Or.inr ⟨position, reply, rfl, present, rfl⟩)

/-- The calls that are on their way, and those that the replies on their way back
will have sent. -/
def upcoming (s : SettingsSystem) : List SettingsCall :=
  s.replies.filterMap SettingsReply.sends ++ s.requests

/-- The value that a call is to write to a property. -/
def targetFor (property : String) : SettingsCall → Option Nat
  | .get _ => none
  | .set written value => if written = property then some value.toNat else none

/-- One count of the system as a shared counter. -/
def tally (property : String) (begun : Nat) (s : SettingsSystem) : SharedCounter where
  stored := (s.counts property).toNat
  begun := begun
  unread := s.requests.count (.get property)
  targets := ((upcoming s).filterMap (targetFor property) : List Nat)

/-- What a step of the system does to one count. -/
def counterEvent (property : String) (s : SettingsSystem) : SettingsInput → CounterEvent
  | .increment cpuNum => if errorCountProperty cpuNum = property then .begins else .idles
  | .handle ec =>
    match s.requests with
    | [] => .idles
    | .get read :: _ =>
      if read = property then (if ec.failed then .readFails else .reads) else .idles
    | .set written value :: _ =>
      if written = property then
        (if ec.failed then .writeFails value.toNat else .writes value.toNat)
      else .idles
  | .deliver _ => .idles

/-- The reply to a successful read will write the next value, unless the limit is reached. -/
theorem targets_of_read (property : String) (ec : ErrorCode) (value : BitVec 8)
    (success : ec.failed = false) :
    (errorCountReply property ec (some value)).toList.filterMap (targetFor property) =
      if value.toNat < 255 then [value.toNat + 1] else [] := by
  cases sent : errorCountReply property ec (some value) with
  | none =>
    have full := (errorCountReply_none_iff property ec value success).mp sent
    simp [full]
  | some call =>
    obtain ⟨_, same, _, room, rfl, next⟩ := errorCountReply_cases sent
    cases same
    simp [room, targetFor, next]

/-- The reply to a read of another property writes nothing to this one. -/
theorem targets_of_other (property read : String) (ec : ErrorCode) (value : Option (BitVec 8))
    (other : read ≠ property) :
    (errorCountReply read ec value).toList.filterMap (targetFor property) = [] := by
  cases sent : errorCountReply read ec value with
  | none => rfl
  | some call =>
    obtain ⟨_, _, _, _, rfl, _⟩ := errorCountReply_cases sent
    simp [targetFor, other]

/-- A reply never sends a Get call. -/
theorem sends_no_get (property : String) (reply : SettingsReply) :
    reply.sends.toList.count (.get property) = 0 := by
  rw [List.count_eq_zero]
  intro member
  cases reply with
  | get read ec value =>
    have sent : errorCountReply read ec value = some (.get property) := by
      simpa [SettingsReply.sends] using member
    obtain ⟨_, _, _, _, call, _⟩ := errorCountReply_cases sent
    cases call
  | set written ec => simp [SettingsReply.sends] at member

/-- A delivery moves a call from what a reply will send to what has been sent. -/
theorem upcoming_delivered {s : SettingsSystem} {position : Nat} {reply : SettingsReply}
    (present : s.replies[position]? = some reply) :
    (upcoming { s with
      requests := s.requests ++ reply.sends.toList
      replies := s.replies.eraseIdx position }).Perm (upcoming s) := by
  obtain ⟨bound, rfl⟩ := List.getElem?_eq_some_iff.mp present
  have moved : ((s.replies.eraseIdx position).filterMap SettingsReply.sends ++
      s.replies[position].sends.toList).Perm (s.replies.filterMap SettingsReply.sends) := by
    have front := (List.getElem_cons_eraseIdx_perm bound).filterMap SettingsReply.sends
    refine List.perm_append_comm.trans (List.Perm.trans (List.Perm.of_eq ?_) front)
    cases sent : s.replies[position].sends <;> simp [sent]
  unfold upcoming
  rw [← List.append_assoc]
  have around := (moved.append_right s.requests)
  rw [List.append_assoc] at around
  refine List.Perm.trans ?_ around
  rw [List.append_assoc]
  exact List.Perm.append_left _ List.perm_append_comm

/-- An increment of the CPU whose count it is begins; any other leaves the count alone. -/
theorem tally_increment (property : String) (begun cpu : Nat) (s : SettingsSystem) :
    (tally property begun s).step 255 (counterEvent property s (.increment cpu)) =
      some (tally property (begun + if errorCountProperty cpu = property then 1 else 0)
        { s with requests := s.requests ++ [incrementCPUErrorCount cpu] }) := by
  have targets : (upcoming { s with requests := s.requests ++ [incrementCPUErrorCount cpu] }).filterMap
      (targetFor property) = (upcoming s).filterMap (targetFor property) := by
    unfold upcoming
    simp [incrementCPUErrorCount, targetFor]
  unfold counterEvent tally
  rw [targets]
  by_cases own : errorCountProperty cpu = property
  · simp [own, SharedCounter.step, incrementCPUErrorCount]
  · simp [own, SharedCounter.step, incrementCPUErrorCount]

/-- The values to be written by all calls but the one that is handled next. -/
def otherTargets (property : String) (s : SettingsSystem) (rest : List SettingsCall) : Multiset Nat :=
  ((s.replies.filterMap SettingsReply.sends ++ rest).filterMap (targetFor property) : List Nat)

theorem targets_before (property : String) (begun : Nat) {s : SettingsSystem} {call : SettingsCall}
    {rest : List SettingsCall} (requests : s.requests = call :: rest) :
    (tally property begun s).targets =
      ([call].filterMap (targetFor property) : List Nat) + otherTargets property s rest := by
  unfold tally otherTargets upcoming
  rw [requests, Multiset.coe_add, Multiset.coe_eq_coe, ← List.filterMap_append]
  apply List.Perm.filterMap
  exact List.perm_middle

theorem targets_after (property : String) (begun : Nat) (s : SettingsSystem) (rest : List SettingsCall)
    (counts : String → BitVec 8) (reply : SettingsReply) :
    (tally property begun ⟨counts, rest, s.replies ++ [reply]⟩).targets =
      (reply.sends.toList.filterMap (targetFor property) : List Nat) + otherTargets property s rest := by
  have sent : [reply].filterMap SettingsReply.sends = reply.sends.toList := by
    cases h : reply.sends <;> simp [h]
  unfold tally otherTargets upcoming
  rw [Multiset.coe_add, Multiset.coe_eq_coe, ← List.filterMap_append]
  apply List.Perm.filterMap
  simp only
  rw [List.filterMap_append, sent]
  rw [← List.append_assoc]
  exact List.Perm.append_right _ List.perm_append_comm

/-- A read of the count is handled. -/
theorem tally_read (property : String) (begun : Nat) {s : SettingsSystem} (ec : ErrorCode)
    {rest : List SettingsCall} (requests : s.requests = .get property :: rest) :
    (tally property begun s).step 255 (if ec.failed then .readFails else .reads) =
      some (tally property begun ⟨s.counts, rest,
        s.replies ++ [.get property ec (if ec.failed then none else some (s.counts property))]⟩) := by
  have before := targets_before property begun requests
  have after := targets_after property begun s rest s.counts
    (.get property ec (if ec.failed then none else some (s.counts property)))
  have waiting : (tally property begun s).unread = rest.count (.get property) + 1 := by
    simp [tally, requests]
  have nothing : [SettingsCall.get property].filterMap (targetFor property) = [] := rfl
  rw [nothing, Multiset.coe_nil, Multiset.zero_add] at before
  cases failed : ec.failed with
  | true =>
    rw [failed] at after
    simp only [SettingsReply.sends, errorCountReply, failed, if_true, Option.toList_none,
      List.filterMap_nil, Multiset.coe_nil, Multiset.zero_add] at after
    simp only [if_true, SharedCounter.step, waiting, Nat.zero_lt_succ, Option.some.injEq]
    ext1
    · rfl
    · rfl
    · rfl
    · exact before.trans after.symm
  | false =>
    rw [failed] at after
    simp only [SettingsReply.sends, Bool.false_eq_true, if_false] at after
    rw [targets_of_read property ec (s.counts property) failed] at after
    simp only [Bool.false_eq_true, if_false, SharedCounter.step, waiting, Nat.zero_lt_succ, if_true,
      Option.some.injEq]
    ext1
    · rfl
    · rfl
    · rfl
    · rw [after, before]
      have stored : (tally property begun s).stored = (s.counts property).toNat := rfl
      rw [stored]
      split
      · simp
      · simp

/-- A write of the count is handled. -/
theorem tally_write (property : String) (begun : Nat) {s : SettingsSystem} (ec : ErrorCode)
    {rest : List SettingsCall} {value : BitVec 8} (requests : s.requests = .set property value :: rest) :
    (tally property begun s).step 255
        (if ec.failed then .writeFails value.toNat else .writes value.toNat) =
      some (tally property begun ⟨if ec.failed then s.counts else Function.update s.counts property value,
        rest, s.replies ++ [.set property ec]⟩) := by
  have before := targets_before property begun requests
  have after := targets_after property begun s rest
    (if ec.failed then s.counts else Function.update s.counts property value) (.set property ec)
  have unread : (tally property begun s).unread = rest.count (.get property) := by
    simp [tally, requests]
  have target : [SettingsCall.set property value].filterMap (targetFor property) = [value.toNat] := by
    simp [targetFor]
  rw [target, Multiset.coe_singleton, Multiset.singleton_add] at before
  simp only [SettingsReply.sends, Option.toList_none, List.filterMap_nil, Multiset.coe_nil,
    Multiset.zero_add] at after
  cases failed : ec.failed with
  | true =>
    rw [failed, if_pos rfl] at after
    simp only [if_true, SharedCounter.step, before, Multiset.mem_cons_self, Option.some.injEq,
      Multiset.erase_cons_head]
    ext1
    · rfl
    · rfl
    · exact unread
    · exact after.symm
  | false =>
    rw [failed, if_neg Bool.false_ne_true] at after
    simp only [Bool.false_eq_true, if_false, SharedCounter.step, before, Multiset.mem_cons_self, if_true,
      Option.some.injEq, Multiset.erase_cons_head]
    ext1
    · simp [tally]
    · rfl
    · exact unread
    · exact after.symm

/-- A call for another property changes no count but that of its own. -/
theorem answer_other (counts : String → BitVec 8) (ec : ErrorCode) {property : String}
    {call : SettingsCall} (other : call.property ≠ property) :
    (answer counts ec call).1 property = counts property := by
  cases call with
  | get read => rfl
  | set written value =>
    have different : property ≠ written := fun same => other same.symm
    cases failed : ec.failed <;> simp [answer, failed, different]

theorem answer_property (counts : String → BitVec 8) (ec : ErrorCode) (call : SettingsCall) :
    (answer counts ec call).2.property = call.property := by
  cases call <;> rfl

/-- A reply sends a call for its own property. -/
theorem sends_property {reply : SettingsReply} {call : SettingsCall} (sent : reply.sends = some call) :
    call.property = reply.property := by
  cases reply with
  | get read ec value =>
    obtain ⟨_, _, _, _, rfl, _⟩ := errorCountReply_cases sent
    rfl
  | set written ec => cases sent

/-- Nor does it write to another, or have its reply do so. -/
theorem other_silent (counts : String → BitVec 8) (ec : ErrorCode) {property : String}
    {call : SettingsCall} (other : call.property ≠ property) :
    [call].filterMap (targetFor property) = [] ∧
      (answer counts ec call).2.sends.toList.filterMap (targetFor property) = [] := by
  cases call with
  | get read => exact ⟨rfl, targets_of_other property read ec _ other⟩
  | set written value =>
    have different : written ≠ property := other
    exact ⟨by simp [targetFor, different], rfl⟩

/-- A call for another property that is handled leaves the count alone. -/
theorem tally_other (property : String) (begun : Nat) {s : SettingsSystem} (ec : ErrorCode)
    {call : SettingsCall} {rest : List SettingsCall} (requests : s.requests = call :: rest)
    (other : call.property ≠ property) :
    tally property begun s = tally property begun
      ⟨(answer s.counts ec call).1, rest, s.replies ++ [(answer s.counts ec call).2]⟩ := by
  have before := targets_before property begun requests
  have after := targets_after property begun s rest (answer s.counts ec call).1
    (answer s.counts ec call).2
  obtain ⟨unwritten, unsent⟩ := other_silent s.counts ec other
  rw [unwritten] at before
  rw [unsent] at after
  ext1
  · show (s.counts property).toNat = ((answer s.counts ec call).1 property).toNat
    rw [answer_other s.counts ec other]
  · rfl
  · have unasked : call ≠ .get property := by
      rintro rfl
      exact other rfl
    simp [tally, requests, unasked]
  · exact before.trans after.symm

/-- What is handled for another property is no event of the count. -/
theorem counterEvent_other {property : String} {s : SettingsSystem} (ec : ErrorCode)
    {call : SettingsCall} {rest : List SettingsCall} (requests : s.requests = call :: rest)
    (other : call.property ≠ property) : counterEvent property s (.handle ec) = .idles := by
  unfold counterEvent
  simp only [requests]
  cases call with
  | get read => exact if_neg other
  | set written value => exact if_neg other

/-- The increments of a count that an input begins. -/
def begins (property : String) : SettingsInput → Nat
  | .increment cpuNum => if errorCountProperty cpuNum = property then 1 else 0
  | _ => 0

/-- Every step of the system is a step of each count. -/
theorem tally_step (property : String) (begun : Nat) {s s' : SettingsSystem} {i : SettingsInput}
    {out : List SettingsCall} (step : settingsSystem.step s i = some (s', out)) :
    (tally property begun s).step 255 (counterEvent property s i) =
      some (tally property (begun + begins property i) s') := by
  rcases settings_step_cases step with ⟨cpu, rfl, rfl⟩ | ⟨ec, call, rest, rfl, requests, rfl⟩ |
    ⟨position, reply, rfl, present, rfl⟩
  · exact tally_increment property begun cpu s
  · by_cases own : call.property = property
    · subst own
      cases call with
      | get read =>
        have handled := tally_read read begun ec requests
        simpa [counterEvent, requests, SettingsCall.property, begins, answer] using handled
      | set written value =>
        have handled := tally_write written begun ec requests
        simpa [counterEvent, requests, SettingsCall.property, begins, answer] using handled
    · rw [counterEvent_other ec requests own, tally_other property begun ec requests own]
      rfl
  · have moved := (upcoming_delivered present).filterMap (targetFor property)
    show some (tally property begun s) = _
    congr 1
    ext1
    · rfl
    · rfl
    · simp [tally, List.count_append, sends_no_get property reply]
    · exact (Multiset.coe_eq_coe.mpr moved).symm

end HostErrorMonitor.Spec
