import Mathlib.Order.Lattice
import Mathlib.Data.List.Basic

/-!
# Flat maps

A map kept as one list in ascending key order, so that iteration starts at the
least key. A key has its entry at the beginning exactly when it is present and
no key is smaller.
-/
namespace HostErrorMonitor.Container

structure FlatMap (κ ν : Type*) [LinearOrder κ] where
  entries : List (κ × ν)
  sorted : entries.Pairwise (fun a b => a.1 < b.1)

namespace FlatMap

variable {κ ν : Type*} [LinearOrder κ] (m : FlatMap κ ν)

def singleton (key : κ) (value : ν) : FlatMap κ ν := ⟨[(key, value)], List.pairwise_singleton _ _⟩

/-- The element at `begin()`; none for the past-the-end iterator. -/
def first : Option (κ × ν) := m.entries.head?

def find (key : κ) : Option ν := m.entries.lookup key

@[simp] theorem first_singleton (key : κ) (value : ν) :
    (singleton key value).first = some (key, value) := rfl

theorem first_eq_none : m.first = none ↔ m.entries = [] := List.head?_eq_none_iff

theorem mem_of_find {key : κ} {value : ν} (found : m.find key = some value) :
    (key, value) ∈ m.entries := by
  obtain ⟨front, back, split, _⟩ := List.lookup_eq_some_iff.mp found
  simp [split]

theorem key_ne_of_find_none {key : κ} (absent : m.find key = none) (entry : κ × ν)
    (member : entry ∈ m.entries) : entry.1 ≠ key := by
  have different := List.lookup_eq_none_iff.mp absent entry member
  simp only [bne_iff_ne, ne_eq] at different
  exact fun same => different same.symm

theorem find_of_first {key : κ} {value : ν} (begins : m.first = some (key, value)) :
    m.find key = some value := by
  obtain ⟨rest, split⟩ := List.head?_eq_some_iff.mp begins
  simp [find, split]

/-- Iteration starts at the least key. -/
theorem first_le {key : κ} {value : ν} (begins : m.first = some (key, value)) (entry : κ × ν)
    (member : entry ∈ m.entries) : key ≤ entry.1 := by
  obtain ⟨rest, split⟩ := List.head?_eq_some_iff.mp begins
  have sorted := m.sorted
  rw [split] at sorted member
  rcases List.mem_cons.mp member with rfl | later
  · exact le_refl _
  · exact le_of_lt (List.rel_of_pairwise_cons sorted later)

/-- A present key that no key precedes is the one at the beginning. -/
theorem first_of_least {key : κ} {value : ν} (found : m.find key = some value)
    (least : ∀ entry ∈ m.entries, key ≤ entry.1) : m.first = some (key, value) := by
  have member := m.mem_of_find found
  rcases begins : m.first with _ | ⟨key', value'⟩
  · rw [m.first_eq_none.mp begins] at member
    cases member
  · have below := m.first_le begins (key, value) member
    have here : (key', value') ∈ m.entries := m.mem_of_find (m.find_of_first begins)
    have same : key' = key := le_antisymm below (least (key', value') here)
    subst same
    have found' := m.find_of_first begins
    rw [found] at found'
    cases found'
    rfl

end FlatMap
end HostErrorMonitor.Container
