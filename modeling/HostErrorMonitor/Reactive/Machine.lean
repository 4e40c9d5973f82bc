import Mathlib.Data.List.Induction

/-!
# Reactive machines and their runs

A machine answers each enabled input with a next state and the observations it
makes. A configuration pairs the state with the trace of all observations so
far, so an invariant may relate the two. `Along` is a condition on the steps of
a run, read before each step; `Always` is a property of every configuration a
run passes through. The invariant rules at the end carry a step lemma to runs.
-/
namespace HostErrorMonitor.Reactive

structure Machine (σ ι ο : Type*) where
  step : σ → ι → Option (σ × List ο)

namespace Machine

variable {σ ι ο : Type*} (m : Machine σ ι ο)

/-- One step of a configuration; the observations join the trace. -/
def next (c : σ × List ο) (i : ι) : Option (σ × List ο) :=
  match m.step c.1 i with
  | none => none
  | some (s, out) => some (s, c.2 ++ out)

def exec : σ × List ο → List ι → Option (σ × List ο)
  | c, [] => some c
  | c, i :: is =>
    match m.next c i with
    | none => none
    | some c' => exec c' is

/-- Every step of the run meets `ok` in the configuration before it. -/
def Along (ok : σ × List ο → ι → Prop) : σ × List ο → List ι → Prop
  | _, [] => True
  | c, i :: is => ok c i ∧
    match m.next c i with
    | none => True
    | some c' => Along ok c' is

instance decidableAlong (ok : σ × List ο → ι → Prop) [∀ c i, Decidable (ok c i)] :
    ∀ c is, Decidable (m.Along ok c is)
  | _, [] => .isTrue trivial
  | c, i :: is => by
    unfold Along
    cases m.next c i with
    | none => exact inferInstanceAs (Decidable (_ ∧ True))
    | some c' =>
      have := decidableAlong ok c' is
      exact inferInstanceAs (Decidable (_ ∧ _))

/-- Every configuration that a prefix of the run reaches satisfies `P`. -/
def Always (P : σ × List ο → Prop) (c : σ × List ο) (is : List ι) : Prop :=
  ∀ pre post c', is = pre ++ post → m.exec c pre = some c' → P c'

theorem next_some {c c' : σ × List ο} {i : ι} :
    m.next c i = some c' ↔ ∃ s out, m.step c.1 i = some (s, out) ∧ c' = (s, c.2 ++ out) := by
  unfold next
  cases m.step c.1 i with
  | none => simp
  | some r =>
    obtain ⟨s, out⟩ := r
    simp [eq_comm]

@[simp] theorem exec_nil (c : σ × List ο) : m.exec c [] = some c := rfl

theorem exec_cons {c c' : σ × List ο} {i : ι} {is : List ι} :
    m.exec c (i :: is) = some c' ↔ ∃ d, m.next c i = some d ∧ m.exec d is = some c' := by
  rw [exec]
  cases m.next c i with
  | none => simp
  | some d => simp

theorem exec_append {c c' : σ × List ο} {is js : List ι} :
    m.exec c (is ++ js) = some c' ↔ ∃ d, m.exec c is = some d ∧ m.exec d js = some c' := by
  induction is generalizing c with
  | nil => simp
  | cons i is ih =>
    rw [List.cons_append, exec_cons]
    simp only [exec_cons, ih]
    constructor
    · rintro ⟨d, hd, e, he, hj⟩
      exact ⟨e, ⟨d, hd, he⟩, hj⟩
    · rintro ⟨e, ⟨d, hd, he⟩, hj⟩
      exact ⟨d, hd, e, he, hj⟩

/-- A run extended by one input: the run, then one step. -/
theorem exec_concat {c c' : σ × List ο} {is : List ι} {i : ι} :
    m.exec c (is ++ [i]) = some c' ↔ ∃ d, m.exec c is = some d ∧ m.next d i = some c' := by
  simp [exec_append, exec_cons]

theorem along_cons {ok : σ × List ο → ι → Prop} {c : σ × List ο} {i : ι} {is : List ι} :
    m.Along ok c (i :: is) ↔ ok c i ∧ ∀ c', m.next c i = some c' → m.Along ok c' is := by
  rw [Along]
  cases m.next c i with
  | none => simp
  | some d => simp

theorem along_append {ok : σ × List ο → ι → Prop} {c : σ × List ο} {is js : List ι} :
    m.Along ok c (is ++ js) ↔
      m.Along ok c is ∧ ∀ d, m.exec c is = some d → m.Along ok d js := by
  induction is generalizing c with
  | nil => simp [Along]
  | cons i is ih =>
    simp only [List.cons_append, along_cons, ih, exec_cons]
    constructor
    · rintro ⟨hok, rest⟩
      refine ⟨⟨hok, fun c' hn => (rest c' hn).1⟩, ?_⟩
      rintro d ⟨c', hn, hd⟩
      exact (rest c' hn).2 d hd
    · rintro ⟨⟨hok, first⟩, last⟩
      exact ⟨hok, fun c' hn => ⟨first c' hn, fun d hd => last d ⟨c', hn, hd⟩⟩⟩

/-- A run extended by one input that meets the condition. -/
theorem along_concat {ok : σ × List ο → ι → Prop} {c d : σ × List ο} {is : List ι} {i : ι}
    (reach : m.exec c is = some d) : m.Along ok c (is ++ [i]) ↔ m.Along ok c is ∧ ok d i := by
  rw [along_append]
  constructor
  · rintro ⟨before, last⟩
    exact ⟨before, (m.along_cons.mp (last d reach)).1⟩
  · rintro ⟨before, met⟩
    refine ⟨before, fun d' reach' => ?_⟩
    rw [reach] at reach'
    cases reach'
    exact m.along_cons.mpr ⟨met, fun _ _ => trivial⟩

theorem along_at {ok : σ × List ο → ι → Prop} {c d : σ × List ο} {pre post : List ι} {i : ι}
    (along : m.Along ok c (pre ++ i :: post)) (reach : m.exec c pre = some d) : ok d i :=
  (m.along_cons.mp ((m.along_append.mp along).2 d reach)).1

/-- `Along` as a condition on every split of the run at one of its steps. -/
theorem along_of_steps {ok : σ × List ο → ι → Prop} {c : σ × List ο} {is : List ι}
    (every : ∀ pre i post d, is = pre ++ i :: post → m.exec c pre = some d → ok d i) :
    m.Along ok c is := by
  induction is generalizing c with
  | nil => trivial
  | cons i is ih =>
    refine m.along_cons.mpr ⟨every [] i is c rfl rfl, fun c' step => ih ?_⟩
    intro pre j post d split reach
    exact every (i :: pre) j post d (by rw [split, List.cons_append])
      (m.exec_cons.mpr ⟨c', step, reach⟩)

theorem along_and {ok ok' : σ × List ο → ι → Prop} {c : σ × List ο} (is : List ι) :
    m.Along (fun c i => ok c i ∧ ok' c i) c is ↔ m.Along ok c is ∧ m.Along ok' c is := by
  induction is generalizing c with
  | nil => simp [Along]
  | cons i is ih =>
    simp only [along_cons, ih]
    constructor
    · rintro ⟨⟨met, met'⟩, rest⟩
      exact ⟨⟨met, fun c' next => (rest c' next).1⟩, met', fun c' next => (rest c' next).2⟩
    · rintro ⟨⟨met, rest⟩, met', rest'⟩
      exact ⟨⟨met, met'⟩, fun c' next => ⟨rest c' next, rest' c' next⟩⟩

theorem along_true (c : σ × List ο) (is : List ι) : m.Along (fun _ _ => True) c is := by
  induction is generalizing c with
  | nil => trivial
  | cons i is ih => exact m.along_cons.mpr ⟨trivial, fun c' _ => ih c'⟩

/-- Invariant rule: what holds at first and is kept by every step that meets
`ok` holds after every run whose steps all meet it. -/
theorem invariant {I : σ × List ο → Prop} {ok : σ × List ο → ι → Prop}
    (kept : ∀ c i c', I c → ok c i → m.next c i = some c' → I c')
    {c c' : σ × List ο} {is : List ι} (first : I c) (along : m.Along ok c is)
    (run : m.exec c is = some c') : I c' := by
  induction is generalizing c with
  | nil =>
    have : c = c' := by simpa using run
    exact this ▸ first
  | cons i is ih =>
    obtain ⟨d, hn, hd⟩ := m.exec_cons.mp run
    obtain ⟨hok, rest⟩ := m.along_cons.mp along
    exact ih (kept c i d first hok hn) (rest d hn) hd

/-- Induction on a run by its last step, for what relates the inputs taken to
the configuration reached. -/
theorem run_induction {c₀ : σ × List ο} (P : List ι → σ × List ο → Prop) (first : P [] c₀)
    (kept : ∀ is d i c, m.exec c₀ is = some d → P is d → m.next d i = some c → P (is ++ [i]) c)
    {is : List ι} {c : σ × List ο} (run : m.exec c₀ is = some c) : P is c := by
  induction is using List.reverseRecOn generalizing c with
  | nil =>
    have : c₀ = c := by simpa using run
    exact this ▸ first
  | append_singleton is i ih =>
    obtain ⟨d, before, last⟩ := m.exec_concat.mp run
    exact kept is d i c before (ih before) last

/-- The invariant rule for the states a run passes through. -/
theorem always_of_invariant {I P : σ × List ο → Prop} {ok : σ × List ο → ι → Prop}
    (kept : ∀ c i c', I c → ok c i → m.next c i = some c' → I c') (gives : ∀ c, I c → P c)
    {c : σ × List ο} {is : List ι} (first : I c) (along : m.Along ok c is) : m.Always P c is := by
  intro pre post c' split reach
  rw [split] at along
  exact gives c' (m.invariant kept first (m.along_append.mp along).1 reach)

/-- Simulation: a step of `m` is answered by `m'` taking the inputs that `parts`
reads off it, so a run of `m` is answered by a run of `m'` on all of them. -/
theorem exec_project {σ' ι' ο' : Type*} (m' : Machine σ' ι' ο')
    (R : σ × List ο → σ' × List ο' → Prop) (parts : ι → List ι')
    (answers : ∀ c i c' d, R c d → m.next c i = some c' →
      ∃ d', m'.exec d (parts i) = some d' ∧ R c' d')
    {c c' : σ × List ο} {d : σ' × List ο'} {is : List ι} (related : R c d)
    (run : m.exec c is = some c') : ∃ d', m'.exec d (is.flatMap parts) = some d' ∧ R c' d' := by
  induction is generalizing c d with
  | nil =>
    have : c = c' := by simpa using run
    exact ⟨d, rfl, this ▸ related⟩
  | cons i is ih =>
    obtain ⟨e, next, rest⟩ := m.exec_cons.mp run
    obtain ⟨d₁, first, related₁⟩ := answers c i e d related next
    obtain ⟨d₂, last, related₂⟩ := ih related₁ rest
    refine ⟨d₂, ?_, related₂⟩
    rw [List.flatMap_cons]
    exact m'.exec_append.mpr ⟨d₁, first, last⟩

/-- The inputs of a run that `keep` marks in the state in which each is taken. -/
def keeping (keep : σ → ι → Bool) : σ × List ο → List ι → List ι
  | _, [] => []
  | c, i :: is =>
    match m.next c i with
    | none => []
    | some c' => if keep c.1 i then i :: keeping keep c' is else keeping keep c' is

theorem keeping_cons {keep : σ → ι → Bool} {c c' : σ × List ο} {i : ι} {is : List ι}
    (next : m.next c i = some c') : m.keeping keep c (i :: is) =
      if keep c.1 i then i :: m.keeping keep c' is else m.keeping keep c' is := by
  rw [keeping, next]

/-- Noninterference: where the steps that are kept answer alike in related states
and the others do not leave the relation, the kept steps alone make a run. -/
theorem exec_keeping (keep : σ → ι → Bool) (R : σ → σ → Prop) {ok : σ × List ο → ι → Prop}
    (answers : ∀ c i s out t, R c.1 t → ok c i → keep c.1 i = true →
      m.step c.1 i = some (s, out) → ∃ t' out', m.step t i = some (t', out') ∧ R s t')
    (unseen : ∀ c i s out t, R c.1 t → ok c i → keep c.1 i = false →
      m.step c.1 i = some (s, out) → R s t)
    {c c' d : σ × List ο} {is : List ι} (related : R c.1 d.1) (along : m.Along ok c is)
    (run : m.exec c is = some c') :
    ∃ d', m.exec d (m.keeping keep c is) = some d' ∧ R c'.1 d'.1 := by
  induction is generalizing c d with
  | nil =>
    have : c = c' := by simpa using run
    exact ⟨d, rfl, this ▸ related⟩
  | cons i is ih =>
    obtain ⟨e, next, rest⟩ := m.exec_cons.mp run
    obtain ⟨met, along⟩ := m.along_cons.mp along
    rw [m.keeping_cons next]
    have later := along e next
    obtain ⟨s, out, step, rfl⟩ := m.next_some.mp next
    cases kept : keep c.1 i with
    | false =>
      rw [if_neg Bool.false_ne_true]
      exact ih (unseen c i s out d.1 related met kept step) later rest
    | true =>
      obtain ⟨t, out', step', related'⟩ := answers c i s out d.1 related met kept step
      obtain ⟨d', run', last⟩ := @ih (s, c.2 ++ out) (t, d.2 ++ out') related' later rest
      refine ⟨d', ?_, last⟩
      rw [if_pos rfl]
      exact m.exec_cons.mpr ⟨_, m.next_some.mpr ⟨t, out', step', rfl⟩, run'⟩

/-- Inputs that are kept in every state are all in the run that is left. -/
theorem countP_keeping {keep : σ → ι → Bool} {p : ι → Bool}
    (kept : ∀ s i, p i = true → keep s i = true) {c c' : σ × List ο} {is : List ι}
    (run : m.exec c is = some c') : (m.keeping keep c is).countP p = is.countP p := by
  induction is generalizing c with
  | nil => rfl
  | cons i is ih =>
    obtain ⟨e, next, rest⟩ := m.exec_cons.mp run
    rw [m.keeping_cons next]
    cases here : keep c.1 i with
    | true => rw [if_pos rfl, List.countP_cons, List.countP_cons, ih rest]
    | false =>
      have unmarked : ¬ p i = true := fun marked => by
        rw [kept c.1 i marked] at here
        cases here
      rw [if_neg Bool.false_ne_true, ih rest, List.countP_cons_of_neg unmarked]

/-- Inputs that are kept in no state are not in the run that is left. -/
theorem mem_keeping {keep : σ → ι → Bool} {c : σ × List ο} {is : List ι} {i : ι}
    (member : i ∈ m.keeping keep c is) : ∃ s, keep s i = true := by
  induction is generalizing c with
  | nil => cases member
  | cons j is ih =>
    rw [keeping] at member
    split at member
    · cases member
    · split at member
      next here =>
        rcases List.mem_cons.mp member with rfl | later
        · exact ⟨c.1, here⟩
        · exact ih later
      · exact ih member

end Machine
end HostErrorMonitor.Reactive
