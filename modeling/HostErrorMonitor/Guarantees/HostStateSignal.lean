import HostErrorMonitor.Source.HostState

/-!
# The host-state signal

A PropertiesChanged signal may carry several properties of the host object, or
only invalidated ones and hence an empty map. The handler looks at the first
entry alone. `hostState_tracked_iff` says for which maps that is enough.
-/
namespace HostErrorMonitor.Guarantees
open HostErrorMonitor.Container HostErrorMonitor.Source

/-- The handler returns. It has recorded and announced the `CurrentHostState` of
the map when there is one, and has left the host state alone when there is none. -/
def HostStateTracked (s : HostState) (interfaceName : String)
    (propertiesChanged : FlatMap String String) : Prop :=
  ∃ s' out, startHostStateMonitor s (some (interfaceName, propertiesChanged)) = .ok (s', out) ∧
    (∀ state, propertiesChanged.find "CurrentHostState" = some state →
      s'.hostOff = (state == hostStateOff) ∧ s'.initialized = true ∧ .init ∈ out ∧
        (.sendHostOn ∈ out ↔ hostIsOff s' = false)) ∧
    (propertiesChanged.find "CurrentHostState" = none →
      s'.hostOff = s.hostOff ∧ .init ∉ out ∧ .sendHostOn ∉ out)

theorem startHostStateMonitor_empty (s : HostState) (interfaceName : String)
    (propertiesChanged : FlatMap String String) (empty : propertiesChanged.entries = []) :
    startHostStateMonitor s (some (interfaceName, propertiesChanged)) =
      .error .dereferencesEnd := by
  have begins := propertiesChanged.first_eq_none.mpr empty
  simp [startHostStateMonitor, begins]

theorem startHostStateMonitor_other (s : HostState) (interfaceName : String)
    (propertiesChanged : FlatMap String String) (property state : String)
    (begins : propertiesChanged.first = some (property, state))
    (other : property ≠ "CurrentHostState") :
    startHostStateMonitor s (some (interfaceName, propertiesChanged)) = .ok (s, []) := by
  simp [startHostStateMonitor, begins, other]

theorem tracked_of_first (s : HostState) (interfaceName : String)
    (propertiesChanged : FlatMap String String) (state : String)
    (begins : propertiesChanged.first = some ("CurrentHostState", state)) :
    HostStateTracked s interfaceName propertiesChanged := by
  have found := propertiesChanged.find_of_first begins
  refine ⟨_, _, startHostStateMonitor_first s interfaceName propertiesChanged state begins, ?_, ?_⟩
  · intro state' found'
    rw [found] at found'
    cases found'
    refine ⟨rfl, rfl, ?_, ?_⟩
    · cases s.initialized <;> simp
    · cases off : state == hostStateOff <;> cases s.initialized <;> simp [hostIsOff]
  · intro absent
    rw [found] at absent
    cases absent

/-- For every signal and prior state: the host state is tracked, without
dereferencing a missing element, if and only if the map is not empty and no key
of it is smaller than a `CurrentHostState` that it has. -/
theorem hostState_tracked_iff (s : HostState) (interfaceName : String)
    (propertiesChanged : FlatMap String String) :
    HostStateTracked s interfaceName propertiesChanged ↔
      propertiesChanged.entries ≠ [] ∧
        ∀ state, ("CurrentHostState", state) ∈ propertiesChanged.entries →
          ∀ entry ∈ propertiesChanged.entries, "CurrentHostState" ≤ entry.1 := by
  constructor
  · rintro ⟨s', out, handled, present, _⟩
    refine ⟨fun empty => ?_, fun state member => ?_⟩
    · rw [startHostStateMonitor_empty s interfaceName propertiesChanged empty] at handled
      cases handled
    · rcases begins : propertiesChanged.first with _ | ⟨property, value⟩
      · rw [propertiesChanged.first_eq_none.mp begins] at member
        cases member
      · by_cases same : property = "CurrentHostState"
        · subst same
          exact propertiesChanged.first_le begins
        · rw [startHostStateMonitor_other s _ _ property value begins same] at handled
          cases handled
          rcases found : propertiesChanged.find "CurrentHostState" with _ | value'
          · exact absurd rfl (propertiesChanged.key_ne_of_find_none found _ member)
          · have := (present value' found).2.2.1
            cases this
  · rintro ⟨nonempty, least⟩
    rcases found : propertiesChanged.find "CurrentHostState" with _ | state
    · rcases begins : propertiesChanged.first with _ | ⟨property, value⟩
      · exact absurd (propertiesChanged.first_eq_none.mp begins) nonempty
      · have other : property ≠ "CurrentHostState" :=
          propertiesChanged.key_ne_of_find_none found (property, value)
            (propertiesChanged.mem_of_find (propertiesChanged.find_of_first begins))
        refine ⟨s, [], startHostStateMonitor_other s _ _ property value begins other, ?_, ?_⟩
        · intro state present
          rw [found] at present
          cases present
        · intro _
          simp
    · have first := propertiesChanged.first_of_least found
        (least state (propertiesChanged.mem_of_find found))
      exact tracked_of_first s interfaceName propertiesChanged state first

/-- The host turns on together with a change of the allowed transitions: the
signal begins with the other property, and the host stays recorded as off. -/
theorem hostState_missed_behind_other_property :
    ¬ HostStateTracked {} "xyz.openbmc_project.State.Host"
      ⟨[("AllowedHostTransitions", ""),
        ("CurrentHostState", "xyz.openbmc_project.State.Host.HostState.Running")], by decide⟩ := by
  rintro ⟨s', out, handled, present, _⟩
  have recorded := present "xyz.openbmc_project.State.Host.HostState.Running" (by decide)
  cases handled
  exact absurd recorded.1 (by decide)

end HostErrorMonitor.Guarantees
