import Mathlib.Data.List.DropRight

/-!
# Past-time reading of finite traces

A trace is a list of observations, oldest first. `since` is the part after the
last marked observation; `Justified` says that every observation is licensed by
the ones before it, which is the general form of a safety property. Both are
read along appended steps by the lemmas below, so a proof over a run only
looks at the observations of one step.
-/
namespace HostErrorMonitor.Reactive

variable {α : Type*}

/-- The observations after the last marked one; all of them when none is marked. -/
def since (mark : α → Bool) (tr : List α) : List α :=
  tr.rtakeWhile (fun x => !mark x)

@[simp] theorem since_nil (mark : α → Bool) : since mark ([] : List α) = [] := rfl

theorem since_append_unmarked (mark : α → Bool) (tr out : List α)
    (unmarked : ∀ x ∈ out, mark x = false) :
    since mark (tr ++ out) = since mark tr ++ out := by
  induction out using List.reverseRecOn with
  | nil => simp
  | append_singleton out x ih =>
    have hx : mark x = false := unmarked x (by simp)
    have rest := ih (fun y hy => unmarked y (by simp [hy]))
    rw [← List.append_assoc]
    unfold since at rest ⊢
    rw [List.rtakeWhile_concat_pos _ _ _ (by simp [hx]), rest, List.append_assoc]

theorem since_concat_marked (mark : α → Bool) (tr : List α) (m : α) (marked : mark m = true) :
    since mark (tr ++ [m]) = [] := by
  unfold since
  exact List.rtakeWhile_concat_neg _ _ _ (by simp [marked])

theorem since_append_concat_marked (mark : α → Bool) (tr out : List α) (m : α)
    (marked : mark m = true) : since mark (tr ++ (out ++ [m])) = [] := by
  rw [← List.append_assoc]
  exact since_concat_marked mark _ m marked

/-- A marked observation forgets everything up to and including itself. -/
theorem since_append_marked (mark : α → Bool) (tr out : List α) (m : α)
    (marked : mark m = true) (unmarked : ∀ x ∈ out, mark x = false) :
    since mark (tr ++ m :: out) = out := by
  rw [show tr ++ m :: out = (tr ++ [m]) ++ out by simp,
    since_append_unmarked mark _ out unmarked, since_concat_marked mark tr m marked,
    List.nil_append]

/-- The last marked observation. -/
def latest (mark : α → Bool) (tr : List α) : Option α := (tr.filter mark).getLast?

@[simp] theorem latest_nil (mark : α → Bool) : latest mark ([] : List α) = none := rfl

theorem latest_append_unmarked (mark : α → Bool) (tr out : List α)
    (unmarked : ∀ x ∈ out, mark x = false) : latest mark (tr ++ out) = latest mark tr := by
  have nothing : out.filter mark = [] := by
    rw [List.filter_eq_nil_iff]
    intro x member
    simp [unmarked x member]
  rw [latest, List.filter_append, nothing, List.append_nil, latest]

theorem latest_append_marked (mark : α → Bool) (tr out : List α) (m : α)
    (marked : mark m = true) (unmarked : ∀ x ∈ out, mark x = false) :
    latest mark (tr ++ m :: out) = some m := by
  rw [show tr ++ m :: out = (tr ++ [m]) ++ out by simp, latest_append_unmarked mark _ out unmarked]
  simp [latest, List.filter_append, marked]

/-- Every observation is licensed by the observations before it. -/
def Justified (license : List α → α → Prop) (tr : List α) : Prop :=
  ∀ pre x post, tr = pre ++ x :: post → license pre x

theorem justified_nil (license : List α → α → Prop) : Justified license [] := by
  intro pre x post h
  simp at h

/-- One occurrence in an appended trace lies in the old part or in the new one. -/
theorem append_eq_mark (tr out pre post : List α) (x : α)
    (h : tr ++ out = pre ++ x :: post) :
    (∃ mid, tr = pre ++ x :: mid ∧ post = mid ++ out) ∨
      (∃ mid, pre = tr ++ mid ∧ out = mid ++ x :: post) := by
  rcases List.append_eq_append_iff.mp h with ⟨mid, hpre, hout⟩ | ⟨mid, htr, hpost⟩
  · exact Or.inr ⟨mid, hpre, hout⟩
  · cases mid with
    | nil => exact Or.inr ⟨[], by simpa using htr.symm, by simpa using hpost.symm⟩
    | cons y mid =>
      simp only [List.cons_append, List.cons.injEq] at hpost
      obtain ⟨rfl, rfl⟩ := hpost
      exact Or.inl ⟨mid, htr, rfl⟩

/-- Extending a justified trace needs a license for the new observations only. -/
theorem justified_append (license : List α → α → Prop) (tr out : List α)
    (old : Justified license tr)
    (new : ∀ pre x post, out = pre ++ x :: post → license (tr ++ pre) x) :
    Justified license (tr ++ out) := by
  intro pre x post h
  rcases append_eq_mark tr out pre post x h with ⟨mid, htr, _⟩ | ⟨mid, hpre, hout⟩
  · exact old pre x mid htr
  · rw [hpre]
    exact new mid x post hout

theorem justified_append_free (license : List α → α → Prop) (tr out : List α)
    (old : Justified license tr) (free : ∀ x ∈ out, ∀ pre, license pre x) :
    Justified license (tr ++ out) := by
  refine justified_append license tr out old fun pre x post split => ?_
  exact free x (by simp [split]) (tr ++ pre)

theorem justified_concat (license : List α → α → Prop) (tr : List α) (x : α)
    (old : Justified license tr) (new : license tr x) : Justified license (tr ++ [x]) := by
  refine justified_append license tr [x] old fun pre y post split => ?_
  cases pre with
  | nil =>
    cases split
    simpa using new
  | cons z pre => simp at split

/-- Where each marked observation needs a granted one since the mark before it,
there are no more marks than grants. -/
theorem countP_le_of_justified (mark grant : α → Bool) (tr : List α)
    (justified : Justified (fun before x => mark x = true → ∃ y ∈ since mark before, grant y = true) tr) :
    tr.countP mark ≤ tr.countP grant := by
  -- an unused grant since the last mark is one to spare
  suffices spare : tr.countP mark + ((since mark tr).any grant).toNat ≤ tr.countP grant by omega
  induction tr using List.reverseRecOn with
  | nil => simp
  | append_singleton tr x ih =>
    have earlier := ih fun pre y post split => justified pre y (post ++ [x]) (by simp [split])
    rw [List.countP_append, List.countP_append]
    cases marked : mark x with
    | true =>
      have granted : (since mark tr).any grant = true :=
        List.any_eq_true.mpr (justified tr x [] rfl marked)
      rw [granted, Bool.toNat_true] at earlier
      rw [since_concat_marked mark tr x marked, List.countP_singleton, if_pos marked]
      simp only [List.any_nil, Bool.toNat_false]
      omega
    | false =>
      rw [since_append_unmarked mark tr [x] (by simpa using marked)]
      simp only [List.countP_singleton, marked, List.any_append, List.any_cons, List.any_nil]
      cases grant x with
      | true =>
        simp only [Bool.false_eq_true, if_false, if_true, Bool.or_true, Bool.true_or, Bool.toNat_true]
        omega
      | false => simpa using earlier

end HostErrorMonitor.Reactive
