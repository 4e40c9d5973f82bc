import HostErrorMonitor.Source.BaseMonitor
import HostErrorMonitor.Source.Crashdump

/-!
`IERRMonitor::incrementCPUErrorCount` (ierr_monitor.hpp:304-351): a Get call for
the count of one CPU, and the handler of its reply, which may send a Set call.
The handler of the Set reply only prints. Counts are bytes.
-/
namespace HostErrorMonitor.Source

/-- The calls on org.freedesktop.DBus.Properties that the increments send to
xyz.openbmc_project.Settings. -/
inductive SettingsCall where
  | get (property : String)
  | set (property : String) (value : BitVec 8)
  deriving DecidableEq, Repr

def SettingsCall.property : SettingsCall → String
  | .get property => property
  | .set property _ => property

/-- The counts are numbered from one. -/
def errorCountProperty (cpuNum : Nat) : String := "ErrorCountCPU" ++ (cpuNum + 1).repr

def incrementCPUErrorCount (cpuNum : Nat) : SettingsCall := .get (errorCountProperty cpuNum)

/-- The handler of the Get reply; `property` is what `std::get_if<uint8_t>` finds. -/
def errorCountReply (propertyName : String) (ec : ErrorCode) (property : Option (BitVec 8)) :
    Option SettingsCall :=
  if ec.failed then none
  else
    match property with
    | none => none
    | some errorCount =>
      if errorCount == 255#8 then none else some (.set propertyName (errorCount + 1#8))

theorem errorCountProperty_inj {m n : Nat} (same : errorCountProperty m = errorCountProperty n) :
    m = n := by
  unfold errorCountProperty at same
  have texts := congrArg String.toList same
  rw [String.toList_append, String.toList_append] at texts
  have := repr_toList_inj (List.append_cancel_left texts)
  omega

/-- The handler sends nothing but a Set call for the next value of its property. -/
theorem errorCountReply_cases {propertyName : String} {ec : ErrorCode}
    {property : Option (BitVec 8)} {call : SettingsCall}
    (sent : errorCountReply propertyName ec property = some call) :
    ∃ errorCount, property = some errorCount ∧ ec.failed = false ∧ errorCount.toNat < 255 ∧
      call = .set propertyName (errorCount + 1#8) ∧
      (errorCount + 1#8).toNat = errorCount.toNat + 1 := by
  unfold errorCountReply at sent
  split at sent
  · cases sent
  next success =>
    cases property with
    | none => cases sent
    | some errorCount =>
      simp only [beq_iff_eq] at sent
      split at sent
      · cases sent
      next other =>
        cases sent
        have room : errorCount.toNat < 255 := by
          have bound := errorCount.isLt
          have differs : errorCount.toNat ≠ 255 := fun same => other (BitVec.eq_of_toNat_eq same)
          omega
        refine ⟨errorCount, rfl, by simpa using success, room, rfl, ?_⟩
        rw [BitVec.toNat_add]
        exact Nat.mod_eq_of_lt (by simpa using by omega)

/-- At the limit, and only there, the reply to a successful read sends nothing. -/
theorem errorCountReply_none_iff (propertyName : String) (ec : ErrorCode) (errorCount : BitVec 8)
    (success : ec.failed = false) :
    errorCountReply propertyName ec (some errorCount) = none ↔ ¬ errorCount.toNat < 255 := by
  constructor
  · intro silent room
    have other : errorCount ≠ 255#8 := by
      rintro rfl
      exact absurd room (by decide)
    simp [errorCountReply, success, other] at silent
  · intro full
    cases sent : errorCountReply propertyName ec (some errorCount) with
    | none => rfl
    | some call =>
      obtain ⟨_, same, _, room, _⟩ := errorCountReply_cases sent
      cases same
      exact absurd room full

end HostErrorMonitor.Source
