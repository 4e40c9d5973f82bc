import HostErrorMonitor.Guarantees.IerrLogging
import HostErrorMonitor.Source.ErrPinMonitor

/-!
# The CPUs that an ERR pin is attributed to

A `logEvent` samples every CPU into a bitset that the member keeps from the sample
before. The reset comes first, and a pass that is left early leaves its bit at
zero, so a bit says that its CPU shows the pin now. The entries are those of the
bits, and there is one even when no CPU can be read.
-/
namespace HostErrorMonitor.Guarantees
open HostErrorMonitor.Source HostErrorMonitor.Spec
open HostErrorMonitor.Source.ErrPinMonitor

/-- The ERRPINSTS read of the models that have one. -/
def readErrpinsts (peci : Peci) (addr : Nat) : CPUModel → Option (PeciRead 32)
  | .skylake => some (peci.rdPCIConfigLocal addr 0 8 0 0x210 4)
  | .iceLake => some (peci.rdEndPointConfigPciLocal addr 0 13 0 3 0x274 4)
  | .other _ => none

/-- The read came back without an error, of PECI or of the device. -/
def ReadsWell (lib : Libpeci) (read : PeciRead 32) : Prop :=
  read.status = .ccSuccess ∧ (read.cc = lib.devCcSuccess ∨ read.cc = lib.devCcFatalMcaDetected)

/-- The CPU answers as one of the two models, and its ERRPINSTS shows the pin. -/
def ShowsErrPin (lib : Libpeci) (peci : Peci) (errPin addr : Nat) : Prop :=
  (peci.getCPUID addr).1 = .ccSuccess ∧
    ∃ errpinsts, readErrpinsts peci addr (peci.getCPUID addr).2 = some errpinsts ∧
      ReadsWell lib errpinsts ∧ errpinsts.value.getLsbD errPin = true

/-- What a run of `logEvent` leaves and writes: a bit for each CPU that shows the
pin, and an entry for each bit, in ascending order, or the one that names no CPU. -/
structure Attributed (lib : Libpeci) (peci : Peci) (errPin : Nat) {n : Nat} (errPinCPUs : BitVec n)
    (entries : List LogEntry) : Prop where
  flagged : ∀ i < n, errPinCPUs.getLsbD i = true ↔
    ShowsErrPin lib peci errPin (lib.minClientAddr + i)
  named : (∃ i, errPinCPUs.getLsbD i = true) → ∃ cpus : List Nat, cpus.Pairwise (· < ·) ∧
    (∀ i, i ∈ cpus ↔ errPinCPUs.getLsbD i = true) ∧ entries = cpus.map (errPinLogCpu errPin)
  generic : (∀ i, errPinCPUs.getLsbD i = false) → entries = [errPinLog errPin]
  logged : entries ≠ []

/-- What one pass writes to its bit, if it gets that far. -/
def errPinSample (lib : Libpeci) (peci : Peci) (errPin addr : Nat) : Option Bool :=
  if (peci.getCPUID addr).1 != .ccSuccess then none
  else
    match readErrpinsts peci addr (peci.getCPUID addr).2 with
    | none => none
    | some errpinsts =>
      if peciError lib errpinsts then none else some (errPinStatus errpinsts.value errPin)

/-- The two models differ in their read alone. -/
theorem checkErrPinCPU_eq {n : Nat} (lib : Libpeci) (peci : Peci) (errPin : Nat)
    (errPinCPUs : BitVec n) (cpu addr : Nat) :
    checkErrPinCPU lib peci errPin errPinCPUs (cpu, addr) =
      match errPinSample lib peci errPin addr with
      | none => errPinCPUs
      | some value => setCPU errPinCPUs cpu value := by
  unfold checkErrPinCPU errPinSample
  cases absent : (peci.getCPUID addr).1 != .ccSuccess with
  | true => simp [absent]
  | false =>
    cases model : (peci.getCPUID addr).2 with
    | skylake =>
      cases failed : peciError lib (peci.rdPCIConfigLocal addr 0 8 0 0x210 4) <;>
        simp [absent, model, readErrpinsts, failed]
    | iceLake =>
      cases failed : peciError lib (peci.rdEndPointConfigPciLocal addr 0 13 0 3 0x274 4) <;>
        simp [absent, model, readErrpinsts, failed]
    | other id => simp [absent, model, readErrpinsts]

theorem peciError_false_iff (lib : Libpeci) (read : PeciRead 32) :
    peciError lib read = false ↔ ReadsWell lib read := by
  unfold peciError ReadsWell
  by_cases success : read.cc = lib.devCcSuccess
  · simp [success]
  · simp [success]

/-- A pass writes a one for the CPUs that show the pin, and for no other. -/
theorem errPinSample_true_iff (lib : Libpeci) (peci : Peci) (errPin addr : Nat) (pin : errPin < 32) :
    errPinSample lib peci errPin addr = some true ↔ ShowsErrPin lib peci errPin addr := by
  unfold errPinSample ShowsErrPin
  cases absent : (peci.getCPUID addr).1 != .ccSuccess with
  | true =>
    have missing : (peci.getCPUID addr).1 ≠ .ccSuccess := by simpa using absent
    simp [missing]
  | false =>
    have present : (peci.getCPUID addr).1 = .ccSuccess := by simpa using absent
    cases read : readErrpinsts peci addr (peci.getCPUID addr).2 with
    | none => simp
    | some errpinsts =>
      have bit : errPinStatus errpinsts.value errPin = errpinsts.value.getLsbD errPin :=
        and_shift_ne_zero errpinsts.value errPin pin
      cases failed : peciError lib errpinsts with
      | true =>
        have unread : ¬ ReadsWell lib errpinsts := fun well => by
          rw [(peciError_false_iff lib errpinsts).mpr well] at failed
          cases failed
        simp [unread, failed]
      | false =>
        have well := (peciError_false_iff lib errpinsts).mp failed
        simp [present, well, bit, failed]

/-- The passes over the first CPUs; the induction is on their number. -/
theorem check_passes {n : Nat} (lib : Libpeci) (peci : Peci) (errPin passes i : Nat) (inside : i < n) :
    (((List.range passes).map fun cpu => (cpu, lib.minClientAddr + cpu)).foldl
        (checkErrPinCPU lib peci errPin) 0#n).getLsbD i =
      (decide (i < passes) && (errPinSample lib peci errPin (lib.minClientAddr + i) == some true)) := by
  induction passes with
  | zero => simp
  | succ passes ih =>
    rw [List.range_succ, List.map_append, List.foldl_append, List.map_singleton, List.foldl_cons,
      List.foldl_nil, checkErrPinCPU_eq]
    cases sample : errPinSample lib peci errPin (lib.minClientAddr + passes) with
    | none =>
      rw [ih]
      by_cases here : i = passes
      · subst here
        simp [sample]
      · have same : i < passes + 1 ↔ i < passes := by omega
        simp [same]
    | some value =>
      simp only
      rw [getLsbD_setCPU _ _ _ _ inside, ih]
      by_cases here : i = passes
      · subst here
        cases value <;> simp [sample]
      · have same : i < passes + 1 ↔ i < passes := by omega
        simp [here, same]

/-- Whatever the bitset was, it is now that of the CPUs that show the pin. -/
theorem checkErrPinCPUs_flags (lib : Libpeci) (peci : Peci) (errPin : Nat) (pin : errPin < 32)
    (errPinCPUs : BitVec lib.maxCPUs) (i : Nat) (inside : i < lib.maxCPUs) :
    (checkErrPinCPUs lib peci errPin errPinCPUs).getLsbD i = true ↔
      ShowsErrPin lib peci errPin (lib.minClientAddr + i) := by
  have visited : i < lib.maxClientAddr + 1 - lib.minClientAddr := inside
  unfold checkErrPinCPUs clientAddrs
  rw [check_passes lib peci errPin _ i inside, ← errPinSample_true_iff lib peci errPin _ pin]
  simp [visited]

/-- A run of `logEvent` attributes the pin to the CPUs that show it now and to no
other, and logs the assertion at least once whatever reads fail. -/
theorem errPin_attributed (lib : Libpeci) (peci : Peci) (errPin : Nat)
    (errPinCPUs : BitVec lib.maxCPUs) (pin : errPin < 32) :
    Attributed lib peci errPin (logEvent lib peci errPin errPinCPUs).1
      (logEvent lib peci errPin errPinCPUs).2 := by
  have entries : (logEvent lib peci errPin errPinCPUs).2 =
      if checkErrPinCPUs lib peci errPin errPinCPUs = 0#(lib.maxCPUs) then [errPinLog errPin]
      else (flaggedCPUs (checkErrPinCPUs lib peci errPin errPinCPUs)).map (errPinLogCpu errPin) :=
    logCPUs_eq _ _ _
  have clear_iff : checkErrPinCPUs lib peci errPin errPinCPUs = 0#(lib.maxCPUs) ↔
      ∀ i, (checkErrPinCPUs lib peci errPin errPinCPUs).getLsbD i = false := by
    constructor
    · intro clear i
      rw [clear, BitVec.getLsbD_zero]
    · intro unset
      apply BitVec.eq_of_getLsbD_eq
      intro i _
      rw [unset i, BitVec.getLsbD_zero]
  refine ⟨checkErrPinCPUs_flags lib peci errPin pin errPinCPUs, ?_, ?_, ?_⟩
  · rintro ⟨i, flag⟩
    refine ⟨flaggedCPUs (checkErrPinCPUs lib peci errPin errPinCPUs), flaggedCPUs_ascending _,
      mem_flaggedCPUs _, ?_⟩
    rw [entries, if_neg]
    intro clear
    have unset := clear_iff.mp clear i
    have set : (checkErrPinCPUs lib peci errPin errPinCPUs).getLsbD i = true := flag
    rw [unset] at set
    cases set
  · intro unset
    rw [entries, if_pos (clear_iff.mpr unset)]
  · rw [entries]
    split
    · exact List.cons_ne_nil _ _
    next some_flag =>
      intro none_logged
      apply some_flag
      apply clear_iff.mpr
      intro i
      have nothing := List.map_eq_nil_iff.mp none_logged
      cases flag : (checkErrPinCPUs lib peci errPin errPinCPUs).getLsbD i with
      | false => rfl
      | true =>
        have member := (mem_flaggedCPUs _ i).mpr flag
        rw [nothing] at member
        cases member

/-- The CPU at the first address always shows ERR31. -/
def showsErr31 : Peci :=
  { mc4Unreadable libpeci with
    rdPCIConfigLocal := fun _ _ _ _ _ _ => ⟨.ccSuccess, 0x40, 1#32 <<< 31⟩ }

/-- The highest pin, with every bit set by an earlier sample. -/
theorem highest_errPin_attributed :
    Attributed libpeci showsErr31 31
      (logEvent libpeci showsErr31 31 (BitVec.allOnes libpeci.maxCPUs)).1
      (logEvent libpeci showsErr31 31 (BitVec.allOnes libpeci.maxCPUs)).2 ∧
    (logEvent libpeci showsErr31 31 (BitVec.allOnes libpeci.maxCPUs)).2 = [errPinLogCpu 31 0] :=
  ⟨errPin_attributed libpeci showsErr31 31 (BitVec.allOnes libpeci.maxCPUs) (by decide), by decide⟩

end HostErrorMonitor.Guarantees
