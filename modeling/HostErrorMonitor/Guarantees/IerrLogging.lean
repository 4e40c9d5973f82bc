import HostErrorMonitor.Spec.IerrDiagnosis

/-!
# Every IERR is logged, or which reads lose it

One run of `IERRMonitor::logEvent` is meant to name each CPU at fault once, or
to fall back to the plain entry when there is none. The scan sets its flag
before the diagnostic reads, and each failed read leaves the loop body without
an entry; the flag then suppresses the fallback. `logEvent_complete_iff` says
for every PECI behaviour when the entries are complete: exactly when no CPU at
fault has a failing read on its diagnostic chain.
-/
namespace HostErrorMonitor.Guarantees
open HostErrorMonitor.Source HostErrorMonitor.Spec

def loggedEntry : IerrEffect → Option LogEntry
  | .incrementCPUErrorCount _ => none
  | .logMessage entry => some entry

/-- The log entries of a run of `logEvent`, in order. -/
def loggedEntries (effects : List IerrEffect) : List LogEntry := effects.filterMap loggedEntry

/-- The message says "IERR on CPU n", with or without a type before it. -/
def namesCpu (cpu : Nat) (entry : LogEntry) : Bool :=
  ("IERR on CPU " ++ cpu.repr).toList.isSuffixOf entry.msg.toList

/-- The entry names a CPU at fault. -/
def NamesFault (lib : Libpeci) (peci : Peci) (entry : LogEntry) : Prop :=
  ∃ cpu addr, (cpu, addr) ∈ clientAddrs lib ∧ atFault lib peci addr = true ∧ namesCpu cpu entry = true

/-- The entries wanted: one for each CPU at fault, the plain one when there is none, and
no other. -/
structure LogsEveryIerr (lib : Libpeci) (peci : Peci) (entries : List LogEntry) : Prop where
  named : ∀ cpu addr, (cpu, addr) ∈ clientAddrs lib → atFault lib peci addr = true →
    entries.countP (namesCpu cpu) = 1
  generic : (∀ cpu addr, (cpu, addr) ∈ clientAddrs lib → atFault lib peci addr = false) →
    entries.count cpuIERRLog = 1
  nonempty : entries ≠ []
  only : ∀ entry ∈ entries, NamesFault lib peci entry ∨
    entry = cpuIERRLog ∧ ∀ cpu addr, (cpu, addr) ∈ clientAddrs lib → atFault lib peci addr = false

/-- The reads that the chain of one CPU gets to all succeed: IA32_MC4_STATUS, then
unless that decides the core FIVR log, then unless that decides the uncore one. -/
def ReadsSucceed (lib : Libpeci) (mc4Status : PeciRead 64) (coreFIVR : Option (BitVec 32))
    (uncoreFIVR : PeciRead 32) : Prop :=
  peciError lib mc4Status = false ∧
    (msecVrMismatch (msecOf mc4Status.value) = true ∨
      ∃ core, coreFIVR = some core ∧ (core ≠ 0#32 ∨ peciError lib uncoreFIVR = false))

def CpuReadsSucceed (lib : Libpeci) (peci : Peci) (addr : Nat) : Prop :=
  match (peci.getCPUID addr).2 with
  | .skylake => ReadsSucceed lib (peci.rdIAMSR addr 0 0x411) (skylakeCore lib peci addr)
      (peci.rdPCIConfigLocal addr 1 30 2 0x84 4)
  | .iceLake => ReadsSucceed lib (peci.rdIAMSR addr 0 0x411) (iceLakeCore lib peci addr)
      (peci.rdEndPointConfigPciLocal addr 0 14 30 2 0x84 4)
  | .other _ => True

theorem diagnose_readFailed_iff (lib : Libpeci) (mc4Status : PeciRead 64)
    (coreFIVR : Option (BitVec 32)) (uncoreFIVR : PeciRead 32) :
    diagnose lib mc4Status coreFIVR uncoreFIVR ≠ .readFailed ↔
      ReadsSucceed lib mc4Status coreFIVR uncoreFIVR := by
  unfold diagnose ReadsSucceed
  cases hmc4 : peciError lib mc4Status
  case true => simp
  cases hvr : msecVrMismatch (msecOf mc4Status.value)
  case true => simp
  cases coreFIVR with
  | none => simp
  | some core =>
    by_cases zero : core = 0#32
    case neg => simp [zero]
    cases huncore : peciError lib uncoreFIVR
    case true => simp [zero]
    simp only [zero, Bool.false_eq_true, ↓reduceIte, ne_eq, not_true_eq_false,
      Option.some.injEq, true_and, exists_eq_left', or_true, iff_true]
    split <;> simp

theorem verdict_readFailed_iff (lib : Libpeci) (peci : Peci) (addr : Nat)
    (fault : atFault lib peci addr = true) :
    verdict lib peci addr ≠ .readFailed ↔ CpuReadsSucceed lib peci addr := by
  unfold verdict CpuReadsSucceed
  rcases model_cases (peci.getCPUID addr).2 with hm | hm | ⟨id, hm⟩
  · simp only [hm]
    exact diagnose_readFailed_iff _ _ _ _
  · simp only [hm]
    exact diagnose_readFailed_iff _ _ _ _
  · simp [atFault, hm] at fault

/-- Entries on a run of `logEvent`, CPU by CPU, and the fallback. -/
def cpuEntries (lib : Libpeci) (peci : Peci) (cpuAddr : Nat × Nat) : List LogEntry :=
  if atFault lib peci cpuAddr.2 then (verdict lib peci cpuAddr.2).entries cpuAddr.1 else []

theorem loggedEntries_cpuEffects (lib : Libpeci) (peci : Peci) (cpuAddr : Nat × Nat) :
    loggedEntries (cpuEffects lib peci cpuAddr) = cpuEntries lib peci cpuAddr := by
  unfold cpuEffects cpuEntries loggedEntries
  split
  · rw [List.filterMap_cons]
    simp [loggedEntry, List.filterMap_map, Function.comp_def]
  · rfl

theorem loggedEntries_flatMap (lib : Libpeci) (peci : Peci) (cpus : List (Nat × Nat)) :
    loggedEntries (cpus.flatMap (cpuEffects lib peci)) = cpus.flatMap (cpuEntries lib peci) := by
  induction cpus with
  | nil => rfl
  | cons c cpus ih =>
    rw [List.flatMap_cons, List.flatMap_cons, ← ih, ← loggedEntries_cpuEffects]
    simp [loggedEntries]

theorem loggedEntries_logEvent (lib : Libpeci) (peci : Peci) :
    loggedEntries (ierrLogEvent lib peci) =
      (clientAddrs lib).flatMap (cpuEntries lib peci) ++
        if (clientAddrs lib).any fun c => atFault lib peci c.2 then [] else [cpuIERRLog] := by
  rw [← loggedEntries_flatMap]
  simp only [ierrLogEvent, checkIERRCPUs_eq]
  cases (clientAddrs lib).any fun c => atFault lib peci c.2
  · simp [loggedEntries, loggedEntry]
  · simp [loggedEntries]

theorem typed_suffix (type : String) (cpu : Nat) :
    ("IERR on CPU " ++ cpu.repr).toList <:+ (cpuIERRLogType cpu type).msg.toList :=
  ⟨type.toList ++ [' '], by simp [cpuIERRLogType, ierrEntry]⟩

/-- An entry about one CPU names that CPU and no other. -/
theorem namesCpu_entries (v : IerrVerdict) (cpu other : Nat) (entry : LogEntry)
    (member : entry ∈ v.entries other) : namesCpu cpu entry = decide (cpu = other) := by
  have tail : ∀ n : Nat, ("IERR on CPU " ++ n.repr).toList =
      "IERR on CPU".toList ++ ' ' :: n.repr.toList := by
    intro n
    simp
  have ends : ("IERR on CPU " ++ other.repr).toList <:+ entry.msg.toList := by
    cases v <;> simp only [IerrVerdict.entries, List.not_mem_nil, List.mem_singleton] at member <;>
      subst member
    case unspecific => exact List.suffix_refl _
    all_goals exact typed_suffix _ other
  by_cases same : cpu = other
  · subst same
    simpa [namesCpu] using ends
  · simp only [namesCpu, same, decide_false]
    rw [Bool.eq_false_iff]
    intro claimed
    have claimed := List.isSuffixOf_iff_suffix.mp claimed
    rw [tail] at claimed ends
    exact same (repr_suffix_inj entry.msg.toList cpu other
      ((List.suffix_append _ _).trans claimed) ((List.suffix_append _ _).trans ends))

/-- Only its own pass of the loop writes entries that name a CPU. -/
theorem countP_namesCpu (lib : Libpeci) (peci : Peci) (cpu addr : Nat)
    (visited : (cpu, addr) ∈ clientAddrs lib) :
    ((clientAddrs lib).flatMap (cpuEntries lib peci)).countP (namesCpu cpu) =
      (cpuEntries lib peci (cpu, addr)).length := by
  have silent : ∀ c ∈ clientAddrs lib, c.1 ≠ cpu →
      (cpuEntries lib peci c).countP (namesCpu cpu) = 0 := by
    intro c _ different
    rw [List.countP_eq_zero]
    intro entry written
    unfold cpuEntries at written
    split at written
    · rw [namesCpu_entries _ cpu c.1 entry written]
      simpa using different.symm
    · simp at written
  have own : (cpuEntries lib peci (cpu, addr)).countP (namesCpu cpu) =
      (cpuEntries lib peci (cpu, addr)).length := by
    rw [List.countP_eq_length]
    intro entry written
    unfold cpuEntries at written
    split at written
    · rw [namesCpu_entries _ cpu cpu entry written]
      simp
    · simp at written
  rw [countP_clientAddrs lib (cpuEntries lib peci) (namesCpu cpu) cpu addr visited silent, own]

/-- Whatever the reads answer, no entry is written without its reason. -/
theorem entries_only (lib : Libpeci) (peci : Peci) : ∀ entry ∈
    (clientAddrs lib).flatMap (cpuEntries lib peci) ++
      (if (clientAddrs lib).any fun c => atFault lib peci c.2 then [] else [cpuIERRLog]),
    NamesFault lib peci entry ∨ entry = cpuIERRLog ∧
      ∀ cpu addr, (cpu, addr) ∈ clientAddrs lib → atFault lib peci addr = false := by
  intro entry member
  rcases List.mem_append.mp member with scanned | fallback
  · obtain ⟨⟨cpu, addr⟩, visited, written⟩ := List.mem_flatMap.mp scanned
    unfold cpuEntries at written
    split at written
    next fault =>
      refine Or.inl ⟨cpu, addr, visited, fault, ?_⟩
      rw [namesCpu_entries _ cpu cpu entry written]
      exact decide_eq_true rfl
    next => cases written
  · split at fallback
    next => cases fallback
    next none =>
      refine Or.inr ⟨List.mem_singleton.mp fallback, fun cpu addr visited => ?_⟩
      have idle : ∀ c ∈ clientAddrs lib, atFault lib peci c.2 = false := by simpa using none
      exact idle (cpu, addr) visited

theorem entries_length (v : IerrVerdict) (cpu : Nat) :
    (v.entries cpu).length = if v = .readFailed then 0 else 1 := by
  cases v <;> rfl

/-- The entries of a run are complete if and only if every read that the chain
of a CPU at fault gets to succeeds. -/
theorem logEvent_complete_iff (lib : Libpeci) (peci : Peci) :
    LogsEveryIerr lib peci (loggedEntries (ierrLogEvent lib peci)) ↔
      ∀ cpu addr, (cpu, addr) ∈ clientAddrs lib → atFault lib peci addr = true →
        CpuReadsSucceed lib peci addr := by
  rw [loggedEntries_logEvent]
  constructor
  · intro complete cpu addr visited fault
    have once := complete.named cpu addr visited fault
    have found : (clientAddrs lib).any (fun c => atFault lib peci c.2) = true :=
      List.any_eq_true.mpr ⟨_, visited, fault⟩
    rw [if_pos found, List.append_nil, countP_namesCpu lib peci cpu addr visited] at once
    simp only [cpuEntries, fault, if_true, entries_length] at once
    rw [← verdict_readFailed_iff lib peci addr fault]
    intro failed
    simp [failed] at once
  · intro reads
    have only := entries_only lib peci
    have named : ∀ cpu addr, (cpu, addr) ∈ clientAddrs lib → atFault lib peci addr = true →
        ((clientAddrs lib).flatMap (cpuEntries lib peci)).countP (namesCpu cpu) = 1 := by
      intro cpu addr visited fault
      have decided := (verdict_readFailed_iff lib peci addr fault).mpr (reads cpu addr visited fault)
      rw [countP_namesCpu lib peci cpu addr visited]
      simp [cpuEntries, fault, entries_length, decided]
    by_cases found : (clientAddrs lib).any (fun c => atFault lib peci c.2) = true
    · rw [if_pos found, List.append_nil] at only ⊢
      obtain ⟨⟨cpu, addr⟩, visited, fault⟩ := List.any_eq_true.mp found
      refine ⟨named, fun none => absurd (none cpu addr visited) (by simpa using fault), ?_, only⟩
      intro empty
      have once := named cpu addr visited fault
      simp [empty] at once
    · rw [if_neg found] at only ⊢
      have none : ∀ c ∈ clientAddrs lib, atFault lib peci c.2 = false := by
        simpa using found
      have silent : (clientAddrs lib).flatMap (cpuEntries lib peci) = [] := by
        rw [List.flatMap_eq_nil_iff]
        intro c visited
        simp [cpuEntries, none c visited]
      rw [silent] at only ⊢
      refine ⟨?_, fun _ => by simp, by simp, only⟩
      intro cpu addr visited fault
      have := none (cpu, addr) visited
      simp [fault] at this

/-- One skylake CPU whose MCA_ERR_SRC_LOG has IERR_INTERNAL set; no MSR read succeeds. -/
def mc4Unreadable (lib : Libpeci) : Peci where
  getCPUID addr := if addr = lib.minClientAddr then (.ccSuccess, .skylake) else (.ccCpuNotPresent, .skylake)
  rdPkgConfig _ _ _ _ := ⟨.ccSuccess, lib.devCcSuccess, 1#32 <<< 27⟩
  rdIAMSR _ _ _ := ⟨.other 4, 0, 0⟩
  rdPCIConfigLocal _ _ _ _ _ _ := ⟨.ccSuccess, lib.devCcSuccess, 0⟩
  rdEndPointConfigPciLocal _ _ _ _ _ _ _ := ⟨.ccSuccess, lib.devCcSuccess, 0⟩

/-- The eight client addresses and the completion codes of the real library. -/
def libpeci : Libpeci := ⟨0x30, 0x37, by decide, 0x40, 0x94⟩

/-- A failed MC4_STATUS read leaves the IERR with no entry at all. -/
theorem logEvent_loses_ierr :
    loggedEntries (ierrLogEvent libpeci (mc4Unreadable libpeci)) = [] ∧
      ¬ LogsEveryIerr libpeci (mc4Unreadable libpeci)
        (loggedEntries (ierrLogEvent libpeci (mc4Unreadable libpeci))) := by
  have empty : loggedEntries (ierrLogEvent libpeci (mc4Unreadable libpeci)) = [] := by decide
  exact ⟨empty, fun complete => complete.nonempty empty⟩

end HostErrorMonitor.Guarantees
