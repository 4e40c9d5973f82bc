import Mathlib.Data.List.Basic

/-!
# A value and its replica

The owner of a value changes it, and tells a replica over a channel that keeps the
order of its messages: it announces a change, or answers a question with the value it
has then, or fails to. The replica holds the value that it received last. As long as
no change goes unannounced once a value was sent (a replica that listens before it
asks), the replica is `Faithful`: the value sent last is the owner's, and an answer
repeats what the replica holds when it arrives, if that is anything.
-/
namespace HostErrorMonitor.Reactive

inductive ReplicaMessage (V : Type*) where
  | announcement (value : V)
  | answer (value : V)
  | failure
  deriving DecidableEq, Repr

/-- The value that a message carries. -/
def ReplicaMessage.value {V : Type*} : ReplicaMessage V → Option V
  | .announcement value => some value
  | .answer value => some value
  | .failure => none

/-- `inTransit` are the messages on their way, oldest first. -/
structure Replica (V : Type*) where
  current : V
  inTransit : List (ReplicaMessage V)
  held : Option V
  deriving DecidableEq, Repr

inductive ReplicaEvent (V : Type*) where
  | changes (value : V)
  | announces (value : V)
  | answers
  | fails
  | receives
  | idles
  deriving DecidableEq, Repr

/-- A message is sent that carries a value. -/
def ReplicaEvent.sends {V : Type*} : ReplicaEvent V → Bool
  | .announces _ => true
  | .answers => true
  | _ => false

namespace Replica
variable {V : Type*}

def step (r : Replica V) : ReplicaEvent V → Option (Replica V)
  | .changes value => some { r with current := value }
  | .announces value =>
    some { r with current := value, inTransit := r.inTransit ++ [.announcement value] }
  | .answers => some { r with inTransit := r.inTransit ++ [.answer r.current] }
  | .fails => some { r with inTransit := r.inTransit ++ [.failure] }
  | .receives =>
    match r.inTransit with
    | [] => none
    | message :: rest => some { r with inTransit := rest, held := message.value.or r.held }
  | .idles => some r

/-- What is held when messages have arrived. -/
def arrived (held : Option V) (messages : List (ReplicaMessage V)) : Option V :=
  messages.foldl (fun held message => message.value.or held) held

/-- The value that the replica holds once all messages have arrived. -/
def latest (r : Replica V) : Option V := arrived r.held r.inTransit

/-- Each answer among the messages repeats what is held when it arrives. -/
def Repeats : Option V → List (ReplicaMessage V) → Prop
  | _, [] => True
  | held, message :: rest =>
    (∀ value, message = .answer value → ∀ known, held = some known → known = value) ∧
      Repeats (message.value.or held) rest

structure Faithful (r : Replica V) : Prop where
  current : ∀ value, r.latest = some value → value = r.current
  repeats : Repeats r.held r.inTransit

variable {r r' : Replica V} {e : ReplicaEvent V}

theorem arrived_concat (held : Option V) (messages : List (ReplicaMessage V))
    (message : ReplicaMessage V) :
    arrived held (messages ++ [message]) = message.value.or (arrived held messages) := by
  unfold arrived
  rw [List.foldl_append]
  rfl

theorem repeats_concat (held : Option V) (messages : List (ReplicaMessage V))
    (message : ReplicaMessage V) : Repeats held (messages ++ [message]) ↔
      Repeats held messages ∧
        ∀ value, message = .answer value →
          ∀ known, arrived held messages = some known → known = value := by
  induction messages generalizing held with
  | nil => simp [Repeats, arrived]
  | cons first rest ih =>
    rw [List.cons_append, Repeats, Repeats, ih, and_assoc]
    rfl

/-- A step sends a value, which is then the latest, or leaves the latest alone. -/
theorem latest_step (step : r.step e = some r') :
    r'.latest = if e.sends then some r'.current else r.latest := by
  cases e with
  | changes value =>
    cases step
    rfl
  | announces value =>
    cases step
    exact arrived_concat r.held r.inTransit (.announcement value)
  | answers =>
    cases step
    exact arrived_concat r.held r.inTransit (.answer r.current)
  | fails =>
    cases step
    exact arrived_concat r.held r.inTransit .failure
  | receives =>
    simp only [Replica.step] at step
    split at step
    · cases step
    next message rest oldest =>
      cases step
      unfold latest arrived
      rw [oldest, List.foldl_cons]
      rfl
  | idles =>
    cases step
    rfl

theorem repeats_step (faithful : r.Faithful) (step : r.step e = some r') :
    Repeats r'.held r'.inTransit := by
  cases e with
  | changes value =>
    cases step
    exact faithful.repeats
  | announces value =>
    cases step
    exact (repeats_concat _ _ _).mpr ⟨faithful.repeats, fun _ same => by cases same⟩
  | answers =>
    cases step
    refine (repeats_concat _ _ _).mpr ⟨faithful.repeats, fun value same known sent => ?_⟩
    cases same
    exact faithful.current known sent
  | fails =>
    cases step
    exact (repeats_concat _ _ _).mpr ⟨faithful.repeats, fun _ same => by cases same⟩
  | receives =>
    have repeats := faithful.repeats
    simp only [Replica.step] at step
    split at step
    · cases step
    next message rest oldest =>
      cases step
      rw [oldest] at repeats
      exact repeats.2
  | idles =>
    cases step
    exact faithful.repeats

/-- Every step keeps the replica faithful, but for an unannounced change once a value
was sent. -/
theorem faithful_step (faithful : r.Faithful)
    (listens : ∀ value, e = .changes value → r.latest = none) (step : r.step e = some r') :
    r'.Faithful := by
  refine ⟨fun value sent => ?_, repeats_step faithful step⟩
  rw [latest_step step] at sent
  cases e with
  | changes changed =>
    have unsent : r.latest = some value := sent
    rw [listens changed rfl] at unsent
    cases unsent
  | announces changed => exact (Option.some.inj sent).symm
  | answers => exact (Option.some.inj sent).symm
  | fails =>
    cases step
    exact faithful.current value sent
  | receives =>
    simp only [Replica.step] at step
    split at step
    · cases step
    · cases step
      exact faithful.current value sent
  | idles =>
    cases step
    exact faithful.current value sent

theorem latest_of_settled (settled : ∀ message ∈ r.inTransit, message.value = none) :
    r.latest = r.held := by
  unfold latest arrived
  generalize r.held = held
  generalize r.inTransit = messages at settled
  induction messages with
  | nil => rfl
  | cons message rest ih =>
    rw [List.foldl_cons, settled message List.mem_cons_self, Option.none_or]
    exact ih fun later member => settled later (List.mem_cons_of_mem _ member)

/-- With no value on its way, what a faithful replica holds is its owner's value. -/
theorem current_of_settled (faithful : r.Faithful)
    (settled : ∀ message ∈ r.inTransit, message.value = none) {value : V}
    (holds : r.held = some value) : value = r.current := by
  apply faithful.current
  rw [latest_of_settled settled, holds]

/-- An answer tells a faithful replica that holds a value nothing new. -/
theorem answer_repeats (faithful : r.Faithful) {value known : V} {rest : List (ReplicaMessage V)}
    (oldest : r.inTransit = .answer value :: rest) (holds : r.held = some known) :
    known = value := by
  have repeats := faithful.repeats
  rw [oldest] at repeats
  exact repeats.1 value rfl known holds

end Replica
end HostErrorMonitor.Reactive
