import Mathlib.Data.Multiset.AddSub

/-!
# A counter that is read and written back

Increments of one stored number that each read it and later write the value read
plus one, up to a limit from which on nothing is written. Increments may overlap,
reads may fail and writes may be dropped. `Within` bounds what the stored number
can still reach, `Exact` says what it reaches while no increment reads before the
write of another, and `within_of_overlap` that an overlap loses one for good. Where
each increment begins with no other going on, `single_step` keeps it so.
-/
namespace HostErrorMonitor.Reactive

/-- `targets` are the values that increments have read, each plus one, and are
still to write. -/
@[ext] structure SharedCounter where
  stored : Nat
  begun : Nat
  unread : Nat
  targets : Multiset Nat

inductive CounterEvent where
  | begins
  | reads
  | readFails
  | writes (target : Nat)
  | writeFails (target : Nat)
  | idles
  deriving DecidableEq, Repr

namespace SharedCounter

def step (limit : Nat) (s : SharedCounter) : CounterEvent → Option SharedCounter
  | .begins => some { s with begun := s.begun + 1, unread := s.unread + 1 }
  | .reads =>
    if 0 < s.unread then
      some { s with
        unread := s.unread - 1
        targets := if s.stored < limit then (s.stored + 1) ::ₘ s.targets else s.targets }
    else none
  | .readFails => if 0 < s.unread then some { s with unread := s.unread - 1 } else none
  | .writes target =>
    if target ∈ s.targets then
      some { s with stored := target, targets := s.targets.erase target }
    else none
  | .writeFails target =>
    if target ∈ s.targets then some { s with targets := s.targets.erase target } else none
  | .idles => some s

variable {limit initial : Nat} {s s' : SharedCounter} {e : CounterEvent}

/-- What one step can do, guards included. -/
theorem step_cases (moved : s.step limit e = some s') :
    (e = .begins ∧ s' = { s with begun := s.begun + 1, unread := s.unread + 1 }) ∨
    (e = .reads ∧ 0 < s.unread ∧ s' = { s with
      unread := s.unread - 1
      targets := if s.stored < limit then (s.stored + 1) ::ₘ s.targets else s.targets }) ∨
    (e = .readFails ∧ 0 < s.unread ∧ s' = { s with unread := s.unread - 1 }) ∨
    (∃ t ∈ s.targets, e = .writes t ∧ s' = { s with stored := t, targets := s.targets.erase t }) ∨
    (∃ t ∈ s.targets, e = .writeFails t ∧ s' = { s with targets := s.targets.erase t }) ∨
    (e = .idles ∧ s' = s) := by
  cases e with
  | begins =>
    cases moved
    exact Or.inl ⟨rfl, rfl⟩
  | reads =>
    simp only [step] at moved
    split at moved
    next waiting =>
      cases moved
      exact Or.inr (Or.inl ⟨rfl, waiting, rfl⟩)
    · cases moved
  | readFails =>
    simp only [step] at moved
    split at moved
    next waiting =>
      cases moved
      exact Or.inr (Or.inr (Or.inl ⟨rfl, waiting, rfl⟩))
    · cases moved
  | writes t =>
    simp only [step] at moved
    split at moved
    next member =>
      cases moved
      exact Or.inr (Or.inr (Or.inr (Or.inl ⟨t, member, rfl, rfl⟩)))
    · cases moved
  | writeFails t =>
    simp only [step] at moved
    split at moved
    next member =>
      cases moved
      exact Or.inr (Or.inr (Or.inr (Or.inr (Or.inl ⟨t, member, rfl, rfl⟩))))
    · cases moved
  | idles =>
    cases moved
    exact Or.inr (Or.inr (Or.inr (Or.inr (Or.inr ⟨rfl, rfl⟩))))

/-- Neither the stored number nor a value to be written can reach more than the
increments begun so far, less `lost` of them. -/
structure Within (initial lost : Nat) (s : SharedCounter) : Prop where
  stored : s.stored + s.unread + lost ≤ initial + s.begun
  targets : ∀ t ∈ s.targets, t + s.unread + lost ≤ initial + s.begun

theorem within_step {lost : Nat} (within : Within initial lost s)
    (moved : s.step limit e = some s') : Within initial lost s' := by
  obtain ⟨stored, targets⟩ := within
  rcases step_cases moved with ⟨_, rfl⟩ | ⟨_, waiting, rfl⟩ | ⟨_, waiting, rfl⟩ |
    ⟨t, member, _, rfl⟩ | ⟨t, member, _, rfl⟩ | ⟨_, rfl⟩
  · refine ⟨by simp only; omega, fun t member => ?_⟩
    have := targets t member
    simp only
    omega
  · refine ⟨by simp only; omega, fun t member => ?_⟩
    have old : t ∈ s.targets ∨ t = s.stored + 1 := by
      simp only at member
      split at member
      · exact (Multiset.mem_cons.mp member).symm
      · exact Or.inl member
    rcases old with old | rfl
    · have := targets t old
      simp only
      omega
    · simp only
      omega
  · refine ⟨by simp only; omega, fun t member => ?_⟩
    have := targets t member
    simp only
    omega
  · refine ⟨targets t member, fun u later => targets u (Multiset.mem_of_mem_erase later)⟩
  · exact ⟨stored, fun u later => targets u (Multiset.mem_of_mem_erase later)⟩
  · exact ⟨stored, targets⟩

/-- Nothing that an increment writes is below the first number. -/
structure Above (initial : Nat) (s : SharedCounter) : Prop where
  stored : initial ≤ s.stored
  targets : ∀ t ∈ s.targets, initial ≤ t

theorem above_step (above : Above initial s) (moved : s.step limit e = some s') :
    Above initial s' := by
  obtain ⟨stored, targets⟩ := above
  rcases step_cases moved with ⟨_, rfl⟩ | ⟨_, waiting, rfl⟩ | ⟨_, waiting, rfl⟩ |
    ⟨t, member, _, rfl⟩ | ⟨t, member, _, rfl⟩ | ⟨_, rfl⟩
  · exact ⟨stored, targets⟩
  · refine ⟨stored, fun t member => ?_⟩
    simp only at member
    split at member
    · rcases Multiset.mem_cons.mp member with rfl | old
      · exact Nat.le_succ_of_le stored
      · exact targets t old
    · exact targets t member
  · exact ⟨stored, targets⟩
  · exact ⟨targets t member, fun u later => targets u (Multiset.mem_of_mem_erase later)⟩
  · exact ⟨stored, fun u later => targets u (Multiset.mem_of_mem_erase later)⟩
  · exact ⟨stored, targets⟩

theorem above_initial (initial : Nat) : Above initial ⟨initial, 0, 0, 0⟩ :=
  ⟨Nat.le_refl _, by simp⟩

/-- No increment has read before the write of another: at most one is to write,
and what it writes is the next number. Up to the limit nothing is lost. -/
structure Exact (limit initial : Nat) (s : SharedCounter) : Prop where
  below : s.stored ≤ limit
  alone : s.targets = 0 ∨ s.stored < limit ∧ s.targets = {s.stored + 1}
  count : min limit (initial + s.begun) = min limit (s.stored + s.unread + s.targets.card)

/-- A read comes when no increment is to write. -/
def Serial (s : SharedCounter) (e : CounterEvent) : Prop := e = .reads → s.targets = 0

def Succeeds (e : CounterEvent) : Prop := e ≠ .readFails ∧ ∀ t, e ≠ .writeFails t

theorem exact_step (exact : Exact limit initial s) (serial : Serial s e) (succeeds : Succeeds e)
    (moved : s.step limit e = some s') : Exact limit initial s' := by
  obtain ⟨below, alone, count⟩ := exact
  rcases step_cases moved with ⟨_, rfl⟩ | ⟨rfl, waiting, rfl⟩ | ⟨rfl, _, _⟩ |
    ⟨t, member, _, rfl⟩ | ⟨t, _, rfl, _⟩ | ⟨_, rfl⟩
  · refine ⟨below, alone, ?_⟩
    simp only
    omega
  · have none_to_write := serial rfl
    rw [none_to_write, Multiset.card_zero] at count
    by_cases room : s.stored < limit
    · refine ⟨below, Or.inr ⟨room, by simp [room, none_to_write]⟩, ?_⟩
      simp only [room, if_true, none_to_write, Multiset.card_cons, Multiset.card_zero]
      omega
    · refine ⟨below, Or.inl (by simp [room, none_to_write]), ?_⟩
      simp only [room, if_false, none_to_write, Multiset.card_zero]
      omega
  · exact absurd rfl succeeds.1
  · rcases alone with none_to_write | ⟨room, only⟩
    · rw [none_to_write] at member
      exact absurd member (Multiset.notMem_zero t)
    · rw [only] at member count ⊢
      have next := Multiset.mem_singleton.mp member
      subst next
      refine ⟨room, Or.inl (by simp), ?_⟩
      simp only [Multiset.card_singleton, Multiset.erase_singleton, Multiset.card_zero] at count ⊢
      omega
  · exact absurd rfl (succeeds.2 t)
  · exact ⟨below, alone, count⟩

/-- At most one increment is going on. -/
def Single (s : SharedCounter) : Prop := s.unread + s.targets.card ≤ 1

/-- One that begins alone stays alone, and reads alone. -/
theorem single_step (single : Single s) (apart : e = .begins → s.unread = 0 ∧ s.targets = 0)
    (moved : s.step limit e = some s') : Single s' ∧ Serial s e := by
  unfold Single at single ⊢
  have serial : 0 < s.unread → s.targets = 0 := fun waiting =>
    Multiset.card_eq_zero.mp (by omega)
  rcases step_cases moved with ⟨rfl, rfl⟩ | ⟨rfl, waiting, rfl⟩ | ⟨rfl, waiting, rfl⟩ |
    ⟨t, member, rfl, rfl⟩ | ⟨t, member, rfl, rfl⟩ | ⟨rfl, rfl⟩
  · obtain ⟨unread, targets⟩ := apart rfl
    exact ⟨by simp [unread, targets], nofun⟩
  · refine ⟨?_, fun _ => serial waiting⟩
    simp only [serial waiting]
    split
    · rw [Multiset.card_cons, Multiset.card_zero]
      omega
    · rw [Multiset.card_zero]
      omega
  · exact ⟨by simp only; omega, nofun⟩
  · have fewer := Multiset.card_erase_of_mem member
    exact ⟨by simp only [fewer, Nat.pred_eq_sub_one]; omega, nofun⟩
  · have fewer := Multiset.card_erase_of_mem member
    exact ⟨by simp only [fewer, Nat.pred_eq_sub_one]; omega, nofun⟩
  · exact ⟨single, nofun⟩

/-- A read that overlaps with an increment that is to write loses one increment. -/
theorem within_of_overlap (exact : Exact limit initial s) (within : Within initial 0 s)
    (overlap : ¬ Serial s e) (moved : s.step limit e = some s') : Within initial 1 s' := by
  unfold Serial at overlap
  obtain ⟨rfl, some_to_write⟩ : e = .reads ∧ s.targets ≠ 0 := by
    by_contra neither
    exact overlap fun reads => by_contra fun some_to_write => neither ⟨reads, some_to_write⟩
  obtain ⟨room, only⟩ := exact.alone.resolve_left some_to_write
  have next := within.targets (s.stored + 1) (by simp [only])
  rcases step_cases moved with ⟨h, _⟩ | ⟨_, waiting, rfl⟩ | ⟨h, _⟩ | ⟨_, _, h, _⟩ |
    ⟨_, _, h, _⟩ | ⟨h, _⟩
  · cases h
  · refine ⟨by simp only; omega, fun t member => ?_⟩
    simp only [room, if_true, only, Multiset.mem_cons, Multiset.mem_singleton, or_self] at member
    subst member
    simp only
    omega
  · cases h
  · cases h
  · cases h
  · cases h

theorem within_initial (initial : Nat) : Within initial 0 ⟨initial, 0, 0, 0⟩ :=
  ⟨by simp, by simp⟩

theorem exact_initial (bounded : initial ≤ limit) : Exact limit initial ⟨initial, 0, 0, 0⟩ :=
  ⟨bounded, Or.inl rfl, by simp⟩

end SharedCounter
end HostErrorMonitor.Reactive
