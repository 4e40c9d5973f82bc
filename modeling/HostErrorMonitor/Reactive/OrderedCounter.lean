import HostErrorMonitor.Reactive.SharedCounter

/-!
# A shared counter whose writes come in the order of their reads

With a queue between the increments and the stored number, the values to be
written are a list, oldest first. However many increments overlap and whichever
writes are dropped, `rising_step` says that no write lowers the stored number: a
value still to be written is at least the number stored by then, and at most one
above it.
-/
namespace HostErrorMonitor.Reactive

@[ext] structure OrderedCounter where
  stored : Nat
  targets : List Nat

namespace OrderedCounter

/-- The counter steps on the events of a shared counter; a write is the oldest. -/
def step (limit : Nat) (s : OrderedCounter) : CounterEvent → Option OrderedCounter
  | .begins => some s
  | .reads =>
    some { s with targets := s.targets ++ if s.stored < limit then [s.stored + 1] else [] }
  | .readFails => some s
  | .writes target =>
    match s.targets with
    | [] => none
    | next :: rest => if next = target then some ⟨target, rest⟩ else none
  | .writeFails target =>
    match s.targets with
    | [] => none
    | next :: rest => if next = target then some { s with targets := rest } else none
  | .idles => some s

variable {limit : Nat} {s s' : OrderedCounter} {e : CounterEvent}

/-- What one step can do to the stored number and the values to be written. -/
theorem step_cases (moved : s.step limit e = some s') :
    s' = s ∨
    (s.stored < limit ∧ s' = { s with targets := s.targets ++ [s.stored + 1] }) ∨
    (∃ target rest, s.targets = target :: rest ∧ s' = ⟨target, rest⟩) ∨
    (∃ target rest, s.targets = target :: rest ∧ s' = { s with targets := rest }) := by
  cases e with
  | begins =>
    cases moved
    exact Or.inl rfl
  | reads =>
    simp only [step] at moved
    split at moved
    next room =>
      cases moved
      exact Or.inr (Or.inl ⟨room, rfl⟩)
    · cases moved
      exact Or.inl (by rw [List.append_nil])
  | readFails =>
    cases moved
    exact Or.inl rfl
  | writes target =>
    simp only [step] at moved
    split at moved
    · cases moved
    next next rest targets =>
      split at moved
      next same =>
        cases moved
        exact Or.inr (Or.inr (Or.inl ⟨target, rest, by rw [targets, same], rfl⟩))
      · cases moved
  | writeFails target =>
    simp only [step] at moved
    split at moved
    · cases moved
    next next rest targets =>
      split at moved
      next same =>
        cases moved
        exact Or.inr (Or.inr (Or.inr ⟨next, rest, targets, rfl⟩))
      · cases moved
  | idles =>
    cases moved
    exact Or.inl rfl

/-- What is to be written is in order from the stored number on, and no more than
one above it. -/
structure Rising (s : OrderedCounter) : Prop where
  ordered : (s.stored :: s.targets).Pairwise (· ≤ ·)
  near : ∀ target ∈ s.targets, target ≤ s.stored + 1

/-- No step lowers the stored number. -/
theorem rising_step (rising : Rising s) (moved : s.step limit e = some s') :
    Rising s' ∧ s.stored ≤ s'.stored := by
  obtain ⟨ordered, near⟩ := rising
  obtain ⟨above, sorted⟩ := List.pairwise_cons.mp ordered
  rcases step_cases moved with rfl | ⟨_, rfl⟩ | ⟨target, rest, targets, rfl⟩ |
    ⟨target, rest, targets, rfl⟩
  · exact ⟨⟨ordered, near⟩, Nat.le_refl _⟩
  · refine ⟨⟨?_, ?_⟩, Nat.le_refl _⟩
    · -- the value just read is the largest: all others were read no later
      show ((s.stored :: s.targets) ++ [s.stored + 1]).Pairwise (· ≤ ·)
      apply List.pairwise_append.mpr
      refine ⟨ordered, List.pairwise_singleton _ _, fun earlier member last same => ?_⟩
      rw [List.mem_singleton.mp same]
      rcases List.mem_cons.mp member with rfl | member
      · omega
      · exact near earlier member
    · intro target member
      rcases List.mem_append.mp member with old | new
      · exact near target old
      · rw [List.mem_singleton.mp new]
  · rw [targets] at above near sorted
    have first : s.stored ≤ target := above target List.mem_cons_self
    refine ⟨⟨sorted, fun later member => ?_⟩, first⟩
    have bound := near later (List.mem_cons_of_mem target member)
    simp only
    omega
  · rw [targets] at above near sorted
    obtain ⟨_, rest_sorted⟩ := List.pairwise_cons.mp sorted
    refine ⟨⟨?_, ?_⟩, Nat.le_refl _⟩
    · apply List.pairwise_cons.mpr
      exact ⟨fun later member => above later (List.mem_cons_of_mem target member), rest_sorted⟩
    · exact fun later member => near later (List.mem_cons_of_mem target member)

theorem rising_initial (initial : Nat) : Rising ⟨initial, []⟩ :=
  ⟨List.pairwise_singleton _ _, by simp⟩

end OrderedCounter
end HostErrorMonitor.Reactive
