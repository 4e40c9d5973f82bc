import Mathlib.Logic.Function.Basic
import HostErrorMonitor.Reactive.Machine

/-!
# Machines within machines

A machine can be seen through a map of its states and a partial map of its
observations: where each step is then one of another machine, so is each run
(`exec_image`). A family of machines has a state for each member. `stepMember`
lets one member take an input and `execAll` lets all take theirs, one member
after the other; either way a member's state and observations are those of its
own run, whatever the other members do.
-/
namespace HostErrorMonitor.Reactive

namespace Machine
variable {σ ι ο : Type*} (m : Machine σ ι ο)

/-- A run is seen as a run where every step is seen as a step. -/
theorem exec_image {σ' ι' ο' : Type*} (m' : Machine σ' ι' ο') (state : σ → σ') (input : ι → ι')
    (observe : ο → Option ο')
    (answers : ∀ s i s' out, m.step s i = some (s', out) →
      m'.step (state s) (input i) = some (state s', out.filterMap observe))
    {c c' : σ × List ο} {is : List ι} (run : m.exec c is = some c') :
    m'.exec (state c.1, c.2.filterMap observe) (is.map input) =
      some (state c'.1, c'.2.filterMap observe) := by
  induction is generalizing c with
  | nil =>
    have : c = c' := by simpa using run
    rw [this, List.map_nil, exec_nil]
  | cons i is ih =>
    obtain ⟨d, next, rest⟩ := m.exec_cons.mp run
    obtain ⟨s, out, step, rfl⟩ := m.next_some.mp next
    rw [List.map_cons]
    refine m'.exec_cons.mpr ⟨_, m'.next_some.mpr ⟨_, _, answers _ _ _ _ step, rfl⟩, ?_⟩
    have later := ih rest
    rwa [List.filterMap_append] at later

/-- A run only adds to the trace, and does not read it. -/
theorem exec_adds {s : σ} {tr : List ο} {is : List ι} {c : σ × List ο}
    (run : m.exec (s, tr) is = some c) :
    ∃ out, c.2 = tr ++ out ∧ ∀ tr₁, m.exec (s, tr₁) is = some (c.1, tr₁ ++ out) := by
  induction is generalizing s tr with
  | nil =>
    have : (s, tr) = c := by simpa using run
    refine ⟨[], by rw [← this, List.append_nil], fun tr₁ => ?_⟩
    rw [← this, exec_nil, List.append_nil]
  | cons i is ih =>
    obtain ⟨d, next, rest⟩ := m.exec_cons.mp run
    obtain ⟨s', first, step, rfl⟩ := m.next_some.mp next
    obtain ⟨out, added, anywhere⟩ := ih rest
    refine ⟨first ++ out, by rw [added, List.append_assoc], fun tr₁ => ?_⟩
    refine m.exec_cons.mpr ⟨_, m.next_some.mpr ⟨s', first, step, rfl⟩, ?_⟩
    rw [anywhere, List.append_assoc]

/-- Two runs that each begin with no observations make one. -/
theorem exec_join {s s' s'' : σ} {out rest : List ο} {is js : List ι}
    (first : m.exec (s, []) is = some (s', out)) (last : m.exec (s', []) js = some (s'', rest)) :
    m.exec (s, []) (is ++ js) = some (s'', out ++ rest) := by
  obtain ⟨later, added, anywhere⟩ := m.exec_adds last
  refine m.exec_append.mpr ⟨(s', out), first, ?_⟩
  have same : rest = later := added
  rw [anywhere, same]

end Machine

section observations
variable {α β : Type*} {f : α → β} {mark : β → Bool}

/-- Observations of one kind, among those of other kinds, when that kind is not marked. -/
theorem countP_map_unmarked (unmarked : ∀ x, mark (f x) = false) (out : List α) :
    (out.map f).countP mark = 0 := by
  rw [List.countP_eq_zero]
  intro y member
  obtain ⟨x, _, rfl⟩ := List.mem_map.mp member
  rw [unmarked]
  exact Bool.false_ne_true

theorem countP_append_unmarked (unmarked : ∀ x, mark (f x) = false) (tr : List β) (out : List α) :
    (tr ++ out.map f).countP mark = tr.countP mark := by
  rw [List.countP_append, countP_map_unmarked unmarked, Nat.add_zero]

theorem countP_append_marked {q : α → Bool} (marked : ∀ x, mark (f x) = q x) (tr : List β)
    (out : List α) : (tr ++ out.map f).countP mark = tr.countP mark + out.countP q := by
  rw [List.countP_append, List.countP_map]
  exact congrArg (_ + ·) (List.countP_congr fun x _ => by simp [marked])

end observations

section family
universe u v w x
variable {κ : Type u} [DecidableEq κ] {σ : κ → Type v} {ι : κ → Type w} {ο : κ → Type x}

/-- The observations of one member. -/
def part (k : κ) (tr : List (Sigma ο)) : List (ο k) :=
  tr.filterMap fun x => if same : x.1 = k then some (same ▸ x.2) else none

@[simp] theorem part_nil (k : κ) : part k ([] : List (Sigma ο)) = [] := rfl

theorem part_append (k : κ) (tr out : List (Sigma ο)) :
    part k (tr ++ out) = part k tr ++ part k out := List.filterMap_append

@[simp] theorem part_own (k : κ) (out : List (ο k)) : part k (out.map (Sigma.mk k)) = out := by
  unfold part
  rw [List.filterMap_map]
  have own : (fun x : Sigma ο => if same : x.1 = k then some (same ▸ x.2) else none) ∘ Sigma.mk k =
      some := by
    funext o
    simp
  rw [own]
  exact List.filterMap_some

theorem part_other {j k : κ} (other : j ≠ k) (out : List (ο j)) :
    part k (out.map (Sigma.mk j)) = [] := by
  unfold part
  rw [List.filterMap_map, List.filterMap_eq_nil_iff]
  intro o _
  simp [other]

variable (m : ∀ k, Machine (σ k) (ι k) (ο k))

/-- One member takes an input. -/
def stepMember (s : ∀ k, σ k) (k : κ) (i : ι k) : Option ((∀ k, σ k) × List (Sigma ο)) :=
  match (m k).step (s k) i with
  | none => none
  | some (t, out) => some (Function.update s k t, out.map (Sigma.mk k))

/-- The members take their inputs in the given order. -/
def execAll (inputs : ∀ k, List (ι k)) :
    List κ → (∀ k, σ k) → Option ((∀ k, σ k) × List (Sigma ο))
  | [], s => some (s, [])
  | k :: order, s =>
    match (m k).exec (s k, []) (inputs k) with
    | none => none
    | some (t, out) =>
      match execAll inputs order (Function.update s k t) with
      | none => none
      | some (s', rest) => some (s', out.map (Sigma.mk k) ++ rest)

variable {m}

/-- The member makes its own step, and no other member moves. -/
theorem stepMember_part {s s' : ∀ k, σ k} {j : κ} {i : ι j} {out : List (Sigma ο)}
    (step : stepMember m s j i = some (s', out)) :
    (m j).step (s j) i = some (s' j, part j out) ∧ ∀ k, k ≠ j → s' k = s k ∧ part k out = [] := by
  unfold stepMember at step
  split at step
  · cases step
  next t own stepped =>
    cases step
    refine ⟨?_, fun k other => ⟨Function.update_of_ne other t s, part_other (Ne.symm other) own⟩⟩
    rw [Function.update_self, part_own]
    exact stepped

theorem execAll_absent {inputs : ∀ k, List (ι k)} {order : List κ} {s s' : ∀ k, σ k}
    {out : List (Sigma ο)} (run : execAll m inputs order s = some (s', out)) {k : κ}
    (absent : k ∉ order) : s' k = s k ∧ part k out = [] := by
  induction order generalizing s s' out with
  | nil =>
    cases run
    exact ⟨rfl, rfl⟩
  | cons j order ih =>
    have other : k ≠ j := fun same => absent (by simp [same])
    unfold execAll at run
    split at run
    · cases run
    next t own _ =>
      split at run
      · cases run
      next s₂ rest later =>
        cases run
        obtain ⟨same, silent⟩ := ih later fun member => absent (by simp [member])
        refine ⟨same.trans (Function.update_of_ne other t s), ?_⟩
        rw [part_append, part_other (Ne.symm other), silent, List.append_nil]

/-- Each member makes its own run. -/
theorem execAll_part {inputs : ∀ k, List (ι k)} {order : List κ} {s s' : ∀ k, σ k}
    {out : List (Sigma ο)} (run : execAll m inputs order s = some (s', out)) (once : order.Nodup)
    {k : κ} (member : k ∈ order) : (m k).exec (s k, []) (inputs k) = some (s' k, part k out) := by
  induction order generalizing s s' out with
  | nil => cases member
  | cons j order ih =>
    obtain ⟨fresh, once⟩ := List.nodup_cons.mp once
    unfold execAll at run
    split at run
    · cases run
    next t own first =>
      split at run
      · cases run
      next s₂ rest later =>
        cases run
        rw [part_append]
        by_cases same : k = j
        · subst same
          obtain ⟨kept, silent⟩ := execAll_absent later fresh
          rw [first, part_own, silent, List.append_nil, kept, Function.update_self]
        · have among := (List.mem_cons.mp member).resolve_left same
          have own_run := ih later once among
          rw [Function.update_of_ne same] at own_run
          rw [part_other (Ne.symm same), List.nil_append]
          exact own_run

/-- Where every member can take its inputs, all can. -/
theorem execAll_total {inputs : ∀ k, List (ι k)} {order : List κ} {s : ∀ k, σ k}
    (once : order.Nodup) (total : ∀ k ∈ order, ∃ c, (m k).exec (s k, []) (inputs k) = some c) :
    ∃ s' out, execAll m inputs order s = some (s', out) := by
  induction order generalizing s with
  | nil => exact ⟨s, [], rfl⟩
  | cons k order ih =>
    obtain ⟨fresh, once⟩ := List.nodup_cons.mp once
    obtain ⟨⟨t, own⟩, first⟩ := total k (by simp)
    have others : ∀ j ∈ order,
        ∃ c, (m j).exec (Function.update s k t j, []) (inputs j) = some c := by
      intro j member
      have other : j ≠ k := fun same => fresh (same ▸ member)
      rw [Function.update_of_ne other]
      exact total j (by simp [member])
    obtain ⟨s', rest, later⟩ := ih once others
    refine ⟨s', own.map (Sigma.mk k) ++ rest, ?_⟩
    simp only [execAll, first, later]

end family
end HostErrorMonitor.Reactive
