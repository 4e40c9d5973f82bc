import HostErrorMonitor.Spec.SettingsService

/-!
# Error counts under overlapping increments

An increment is a Get call, its reply and a Set call, and nothing keeps the
increments of one CPU apart. `increments_counted` says that a count is exact
when each of its Get calls is handled with no other increment of that CPU
between its Get and its Set; up to the limit of the byte it is exact only then.
-/
namespace HostErrorMonitor.Guarantees
open HostErrorMonitor.Source HostErrorMonitor.Spec Reactive

/-- A Get call for the property is handled when no increment of it has read a
value that it has still to write. -/
def ReadsAlone (property : String) (c : SettingsSystem × List SettingsCall) (i : SettingsInput) : Prop :=
  SharedCounter.Serial (tally property 0 c.1) (counterEvent property c.1 i)

/-- All increments of the property are complete: none of their calls is still to
be handled, nor to be sent by a reply on its way. -/
def Completed (property : String) (s : SettingsSystem) : Prop :=
  ∀ call ∈ upcoming s, call.property ≠ property

/-- The increments of one CPU that a run begins. -/
def increments (cpuNum : Nat) (is : List SettingsInput) : Nat := is.count (.increment cpuNum)

theorem increments_concat (cpuNum : Nat) (is : List SettingsInput) (i : SettingsInput) :
    increments cpuNum (is ++ [i]) =
      increments cpuNum is + begins (errorCountProperty cpuNum) i := by
  unfold increments
  rw [List.count_append]
  congr 1
  cases i with
  | increment other =>
    by_cases same : other = cpuNum
    · simp [begins, same]
    · have different : errorCountProperty other ≠ errorCountProperty cpuNum :=
        fun h => same (errorCountProperty_inj h)
      simp [begins, same, different]
  | handle ec => rfl
  | deliver position => rfl

/-- The service handles the call, if the input is one, without an error. -/
def handlesWell : SettingsInput → Bool
  | .handle ec => !ec.failed
  | _ => true

/-- Where no call fails, no read and no write does. -/
theorem succeeds_of_handlesWell {property : String} {s : SettingsSystem} {i : SettingsInput}
    (well : handlesWell i = true) : SharedCounter.Succeeds (counterEvent property s i) := by
  cases i with
  | increment cpu =>
    simp only [counterEvent]
    split <;> simp [SharedCounter.Succeeds]
  | handle ec =>
    have success : ec.failed = false := by simpa [handlesWell] using well
    simp only [counterEvent, success]
    split
    · simp [SharedCounter.Succeeds]
    · split <;> simp [SharedCounter.Succeeds]
    · split <;> simp [SharedCounter.Succeeds]
  | deliver position => simp [counterEvent, SharedCounter.Succeeds]

instance (property : String) (c : SettingsSystem × List SettingsCall) (i : SettingsInput) :
    Decidable (ReadsAlone property c i) :=
  inferInstanceAs (Decidable (counterEvent property c.1 i = .reads → (tally property 0 c.1).targets = 0))

instance (property : String) (s : SettingsSystem) : Decidable (Completed property s) :=
  inferInstanceAs (Decidable (∀ call ∈ upcoming s, call.property ≠ property))

/-- The runs in which every Get for the count of the CPU is handled alone. -/
def CountedAlone (counts : String → BitVec 8) (cpuNum : Nat) (is : List SettingsInput) : Prop :=
  settingsSystem.Along (ReadsAlone (errorCountProperty cpuNum)) (.initial counts, []) is

/-- Whatever fails, a count never exceeds its first value and the increments begun. -/
theorem within_of_run {counts : String → BitVec 8} {cpuNum : Nat} {is : List SettingsInput}
    {c : SettingsSystem × List SettingsCall}
    (run : settingsSystem.exec (.initial counts, []) is = some c) :
    SharedCounter.Within (counts (errorCountProperty cpuNum)).toNat 0
      (tally (errorCountProperty cpuNum) (increments cpuNum is) c.1) := by
  apply settingsSystem.run_induction (fun is c =>
    SharedCounter.Within (counts (errorCountProperty cpuNum)).toNat 0
      (tally (errorCountProperty cpuNum) (increments cpuNum is) c.1)) ?_ ?_ run
  · exact SharedCounter.within_initial _
  · intro is d i c _ within next
    obtain ⟨s, out, step, rfl⟩ := settingsSystem.next_some.mp next
    have moved := tally_step (errorCountProperty cpuNum) (increments cpuNum is) step
    rw [← increments_concat] at moved
    exact SharedCounter.within_step within moved

/-- While every Get is handled alone the count is exact; from the first that is
not one increment is lost. -/
theorem tally_of_run {counts : String → BitVec 8} {cpuNum : Nat} {is : List SettingsInput}
    {c : SettingsSystem × List SettingsCall}
    (run : settingsSystem.exec (.initial counts, []) is = some c)
    (well : ∀ i ∈ is, handlesWell i = true) :
    (CountedAlone counts cpuNum is →
      SharedCounter.Exact 255 (counts (errorCountProperty cpuNum)).toNat
        (tally (errorCountProperty cpuNum) (increments cpuNum is) c.1)) ∧
    (¬ CountedAlone counts cpuNum is →
      SharedCounter.Within (counts (errorCountProperty cpuNum)).toNat 1
        (tally (errorCountProperty cpuNum) (increments cpuNum is) c.1)) := by
  revert well
  apply settingsSystem.run_induction (fun is c => (∀ i ∈ is, handlesWell i = true) →
    (CountedAlone counts cpuNum is →
      SharedCounter.Exact 255 (counts (errorCountProperty cpuNum)).toNat
        (tally (errorCountProperty cpuNum) (increments cpuNum is) c.1)) ∧
    (¬ CountedAlone counts cpuNum is →
      SharedCounter.Within (counts (errorCountProperty cpuNum)).toNat 1
        (tally (errorCountProperty cpuNum) (increments cpuNum is) c.1))) ?_ ?_ run
  · intro _
    have start : tally (errorCountProperty cpuNum) (increments cpuNum []) (.initial counts) =
        ⟨(counts (errorCountProperty cpuNum)).toNat, 0, 0, 0⟩ := rfl
    have bounded : (counts (errorCountProperty cpuNum)).toNat ≤ 255 := by
      have := (counts (errorCountProperty cpuNum)).isLt
      omega
    rw [start]
    exact ⟨fun _ => SharedCounter.exact_initial bounded, fun overlap => absurd trivial overlap⟩
  · intro is d i c reach earlier next well
    have before := earlier fun j member => well j (List.mem_append_left _ member)
    have within := @within_of_run counts cpuNum is d reach
    have succeeds : SharedCounter.Succeeds (counterEvent (errorCountProperty cpuNum) d.1 i) :=
      succeeds_of_handlesWell (well i (by simp))
    obtain ⟨s, out, step, rfl⟩ := settingsSystem.next_some.mp next
    have moved := tally_step (errorCountProperty cpuNum) (increments cpuNum is) step
    rw [← increments_concat] at moved
    have alone : CountedAlone counts cpuNum (is ++ [i]) ↔ CountedAlone counts cpuNum is ∧
        ReadsAlone (errorCountProperty cpuNum) d i := settingsSystem.along_concat reach
    constructor
    · intro both
      obtain ⟨so_far, serial⟩ := alone.mp both
      exact SharedCounter.exact_step (before.1 so_far) serial succeeds moved
    · intro overlap
      by_cases so_far : CountedAlone counts cpuNum is
      · have now : ¬ ReadsAlone (errorCountProperty cpuNum) d i :=
          fun serial => overlap (alone.mpr ⟨so_far, serial⟩)
        exact SharedCounter.within_of_overlap (before.1 so_far) within now moved
      · exact SharedCounter.within_step (before.2 so_far) moved

/-- With its increments complete, nothing is still to be read or written for a count. -/
theorem tally_completed {property : String} {begun : Nat} {s : SettingsSystem}
    (completed : Completed property s) :
    (tally property begun s).unread = 0 ∧ (tally property begun s).targets = 0 := by
  constructor
  · show s.requests.count (.get property) = 0
    rw [List.count_eq_zero]
    intro member
    exact completed _ (List.mem_append_right _ member) rfl
  · have nothing : (upcoming s).filterMap (targetFor property) = [] := by
      rw [List.filterMap_eq_nil_iff]
      intro call member
      have other := completed call member
      cases call with
      | get read => rfl
      | set written value =>
        have different : written ≠ property := other
        simp [targetFor, different]
    show (((upcoming s).filterMap (targetFor property) : List Nat) : Multiset Nat) = 0
    rw [nothing]
    rfl

/-- Once all increments of a CPU are complete its count has risen by their number,
up to 255, if every Get was handled alone; and short of 255 only then. -/
theorem increments_counted (counts : String → BitVec 8) (cpuNum : Nat) (is : List SettingsInput)
    (c : SettingsSystem × List SettingsCall)
    (run : settingsSystem.exec (.initial counts, []) is = some c)
    (well : ∀ i ∈ is, handlesWell i = true)
    (completed : Completed (errorCountProperty cpuNum) c.1) :
    (CountedAlone counts cpuNum is →
      (c.1.counts (errorCountProperty cpuNum)).toNat =
        min 255 ((counts (errorCountProperty cpuNum)).toNat + increments cpuNum is)) ∧
    ((counts (errorCountProperty cpuNum)).toNat + increments cpuNum is ≤ 255 →
      ((c.1.counts (errorCountProperty cpuNum)).toNat =
        min 255 ((counts (errorCountProperty cpuNum)).toNat + increments cpuNum is) ↔
          CountedAlone counts cpuNum is)) := by
  obtain ⟨unread, targets⟩ := @tally_completed _ (increments cpuNum is) _ completed
  obtain ⟨counted, lost⟩ := @tally_of_run counts cpuNum is c run well
  have all : CountedAlone counts cpuNum is → (c.1.counts (errorCountProperty cpuNum)).toNat =
      min 255 ((counts (errorCountProperty cpuNum)).toNat + increments cpuNum is) := by
    intro alone
    have count := (counted alone).count
    have below := (counted alone).below
    rw [unread, targets, Multiset.card_zero] at count
    simp only [tally] at count below
    omega
  refine ⟨all, fun short => ⟨fun exact => ?_, all⟩⟩
  by_contra overlap
  have bound := (lost overlap).stored
  rw [unread] at bound
  simp only [tally] at bound
  omega

instance (counts : String → BitVec 8) (cpuNum : Nat) (is : List SettingsInput) :
    Decidable (CountedAlone counts cpuNum is) :=
  inferInstanceAs (Decidable (settingsSystem.Along _ _ is))

/-- Two increments of CPU 0 one after the other, the first overlapping with one of CPU 1. -/
def incrementsInTurn : List SettingsInput :=
  [.increment 0, .increment 1, .handle ⟨0⟩, .handle ⟨0⟩, .deliver 0, .handle ⟨0⟩, .increment 0,
    .handle ⟨0⟩, .deliver 2, .handle ⟨0⟩]

theorem increments_counted_in_turn : ∃ c,
    settingsSystem.exec (.initial fun _ => 3#8, []) incrementsInTurn = some c ∧
    (c.1.counts (errorCountProperty 0)).toNat = min 255 (3 + 2) :=
  ⟨_, rfl, (increments_counted (fun _ => 3#8) 0 incrementsInTurn _ rfl (by decide) (by decide)).1
    (by decide)⟩

/-- Both increments read the count before either writes it. -/
theorem increments_lost_in_overlap : ∃ c, settingsSystem.exec (.initial fun _ => 0#8, [])
      [.increment 0, .increment 0, .handle ⟨0⟩, .handle ⟨0⟩, .deliver 0, .deliver 0, .handle ⟨0⟩,
        .handle ⟨0⟩] = some c ∧ Completed (errorCountProperty 0) c.1 ∧
    (c.1.counts (errorCountProperty 0)).toNat ≠ min 255 (0 + 2) :=
  ⟨_, rfl, by decide, by decide⟩

end HostErrorMonitor.Guarantees
