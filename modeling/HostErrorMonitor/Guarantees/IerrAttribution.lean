import HostErrorMonitor.Guarantees.IerrLogging

/-!
# What an IERR scan reports

`checkIERRCPUs_meaning` states the scan on the register values: which CPUs are
counted, which entry each gets, and that every CPU's part depends on the answers
at its own address alone. `iceLakeCase_eq_skylakeCase` says that the two
branches of the loop are one chain, up to the split of the core FIVR log.
-/
namespace HostErrorMonitor.Guarantees
open HostErrorMonitor.Source HostErrorMonitor.Spec

/-- The diagnostic reads that one branch makes for a CPU at fault. -/
structure DiagnosticReads where
  mc4Status : PeciRead 64
  coreFIVR : List (PeciRead 32)
  uncoreFIVR : PeciRead 32

def diagnosticReads (peci : Peci) (addr : Nat) : CPUModel → Option DiagnosticReads
  | .skylake => some {
      mc4Status := peci.rdIAMSR addr 0 0x411
      coreFIVR := [peci.rdPCIConfigLocal addr 1 30 2 0x80 4]
      uncoreFIVR := peci.rdPCIConfigLocal addr 1 30 2 0x84 4 }
  | .iceLake => some {
      mc4Status := peci.rdIAMSR addr 0 0x411
      coreFIVR := [peci.rdEndPointConfigPciLocal addr 0 14 30 2 0xC0 4,
        peci.rdEndPointConfigPciLocal addr 0 14 30 2 0xC4 4]
      uncoreFIVR := peci.rdEndPointConfigPciLocal addr 0 14 30 2 0x84 4 }
  | .other _ => none

def DiagnosticReads.AllSucceed (lib : Libpeci) (reads : DiagnosticReads) : Prop :=
  peciError lib reads.mc4Status = false ∧ (∀ core ∈ reads.coreFIVR, peciError lib core = false) ∧
    peciError lib reads.uncoreFIVR = false

/-- Bits 31:24. -/
def msecBits (mc4Status : BitVec 64) : BitVec 8 := mc4Status.extractLsb' 24 8

/-- The entry that the registers call for, in order of priority. -/
def DiagnosticReads.entry (reads : DiagnosticReads) (cpu : Nat) : LogEntry :=
  let msec := msecBits reads.mc4Status.value
  if msec = 0x40 ∨ msec = 0x42 ∨ msec = 0x43 then cpuIERRLogType cpu "CPU/VR Mismatch"
  else if ∃ core ∈ reads.coreFIVR, core.value ≠ 0#32 then cpuIERRLogType cpu "Core FIVR Fault"
  else if reads.uncoreFIVR.value ≠ 0#32 ∨ msec = 0x51 ∨ msec = 0x52 then
    cpuIERRLogType cpu "Uncore FIVR Fault"
  else cpuIERRLogCpu cpu

/-- Two behaviours that answer alike at one address. -/
structure AgreeAt (peci other : Peci) (addr : Nat) : Prop where
  getCPUID : peci.getCPUID addr = other.getCPUID addr
  rdPkgConfig : peci.rdPkgConfig addr = other.rdPkgConfig addr
  rdIAMSR : peci.rdIAMSR addr = other.rdIAMSR addr
  rdPCIConfigLocal : peci.rdPCIConfigLocal addr = other.rdPCIConfigLocal addr
  rdEndPointConfigPciLocal : peci.rdEndPointConfigPciLocal addr = other.rdEndPointConfigPciLocal addr

/-- The flag and the increments of a scan. -/
structure CountsFaults (lib : Libpeci) (peci : Peci) (scan : IerrScan) : Prop where
  found : scan.cpuIERRFound = true ↔
    ∃ addr, lib.minClientAddr ≤ addr ∧ addr ≤ lib.maxClientAddr ∧ atFault lib peci addr = true
  counted : ∀ addr, lib.minClientAddr ≤ addr → addr ≤ lib.maxClientAddr →
    scan.effects.count (.incrementCPUErrorCount (addr - lib.minClientAddr)) =
      if atFault lib peci addr then 1 else 0
  no_other : ∀ cpu, .incrementCPUErrorCount cpu ∈ scan.effects →
    lib.minClientAddr + cpu ≤ lib.maxClientAddr ∧ atFault lib peci (lib.minClientAddr + cpu) = true

/-- What the scan adds for one CPU: nothing unless it is at fault, and the count
and the entry of its registers when all its diagnostic reads succeed. -/
structure CpuPart (lib : Libpeci) (peci : Peci) (cpu addr : Nat) (part : List IerrEffect) : Prop where
  blameless : atFault lib peci addr = false → part = []
  diagnosed : atFault lib peci addr = true →
    ∀ reads, diagnosticReads peci addr (peci.getCPUID addr).2 = some reads → reads.AllSucceed lib →
      part = [.incrementCPUErrorCount cpu, .logMessage (reads.entry cpu)]
  isolated : ∀ other, AgreeAt peci other addr → part = cpuEffects lib other (cpu, addr)

theorem msecOf_eq (mc4Status : BitVec 64) (code : BitVec 8) :
    (msecOf mc4Status == code.setWidth 64) = decide (msecBits mc4Status = code) := by
  have low : ∀ x : Nat, x &&& 255 = x % 2 ^ 8 := fun x => Nat.and_two_pow_sub_one_eq_mod x 8
  have value : (msecOf mc4Status).toNat = (msecBits mc4Status).toNat := by
    simp [msecOf, msecBits, BitVec.toNat_and, BitVec.toNat_ushiftRight, BitVec.extractLsb'_toNat, low]
  rw [Bool.eq_iff_iff, beq_iff_eq, decide_eq_true_iff, BitVec.toNat_inj.symm, value,
    BitVec.toNat_setWidth, Nat.mod_eq_of_lt (by have := code.isLt; omega), BitVec.toNat_inj]

theorem msecVrMismatch_iff (mc4Status : BitVec 64) : msecVrMismatch (msecOf mc4Status) = true ↔
    msecBits mc4Status = 0x40 ∨ msecBits mc4Status = 0x42 ∨ msecBits mc4Status = 0x43 := by
  have h40 := msecOf_eq mc4Status 0x40
  have h42 := msecOf_eq mc4Status 0x42
  have h43 := msecOf_eq mc4Status 0x43
  simp only [msecVrMismatch, Bool.or_eq_true]
  rw [show (0x40 : BitVec 64) = (0x40 : BitVec 8).setWidth 64 from rfl, h40,
    show (0x42 : BitVec 64) = (0x42 : BitVec 8).setWidth 64 from rfl, h42,
    show (0x43 : BitVec 64) = (0x43 : BitVec 8).setWidth 64 from rfl, h43]
  simp [or_assoc]

theorem msecFivrCatas_iff (mc4Status : BitVec 64) : msecFivrCatas (msecOf mc4Status) = true ↔
    msecBits mc4Status = 0x51 ∨ msecBits mc4Status = 0x52 := by
  have h51 := msecOf_eq mc4Status 0x51
  have h52 := msecOf_eq mc4Status 0x52
  simp only [msecFivrCatas, Bool.or_eq_true]
  rw [show (0x51 : BitVec 64) = (0x51 : BitVec 8).setWidth 64 from rfl, h51,
    show (0x52 : BitVec 64) = (0x52 : BitVec 8).setWidth 64 from rfl, h52]
  simp

/-- A pass counts its own CPU, once, when it is at fault. -/
theorem count_increment (lib : Libpeci) (peci : Peci) (cpu : Nat) (cpuAddr : Nat × Nat) :
    (cpuEffects lib peci cpuAddr).count (.incrementCPUErrorCount cpu) =
      if cpuAddr.1 = cpu ∧ atFault lib peci cpuAddr.2 = true then 1 else 0 := by
  have no_count : ∀ entries : List LogEntry,
      (entries.map IerrEffect.logMessage).count (.incrementCPUErrorCount cpu) = 0 := by
    intro entries
    rw [List.count_eq_zero]
    simp
  unfold cpuEffects
  cases fault : atFault lib peci cpuAddr.2 with
  | false => simp
  | true =>
    rw [if_pos rfl, List.count_cons, no_count]
    simp

theorem countsFaults_checkIERRCPUs (lib : Libpeci) (peci : Peci) :
    CountsFaults lib peci (checkIERRCPUs lib peci) := by
  rw [checkIERRCPUs_eq]
  refine ⟨?_, ?_, ?_⟩
  · rw [List.any_eq_true]
    constructor
    · rintro ⟨⟨cpu, addr⟩, visited, fault⟩
      obtain ⟨rfl, bound⟩ := (mem_clientAddrs lib cpu addr).mp visited
      exact ⟨_, Nat.le_add_right _ _, bound, fault⟩
    · rintro ⟨addr, low, high, fault⟩
      refine ⟨(addr - lib.minClientAddr, addr), ?_, fault⟩
      exact (mem_clientAddrs lib _ _).mpr ⟨by omega, high⟩
  · intro addr low high
    have visited : (addr - lib.minClientAddr, addr) ∈ clientAddrs lib :=
      (mem_clientAddrs lib _ _).mpr ⟨by omega, high⟩
    have own := countP_clientAddrs lib (cpuEffects lib peci)
      (· == IerrEffect.incrementCPUErrorCount (addr - lib.minClientAddr)) _ _ visited fun c _ other => by
        have silent := count_increment lib peci (addr - lib.minClientAddr) c
        rw [if_neg fun both => other both.1] at silent
        exact silent
    refine own.trans ((count_increment lib peci _ _).trans ?_)
    simp
  · intro cpu member
    obtain ⟨⟨cpu', addr⟩, visited, written⟩ := List.mem_flatMap.mp member
    obtain ⟨rfl, bound⟩ := (mem_clientAddrs lib cpu' addr).mp visited
    have once := List.count_pos_iff.mpr written
    rw [count_increment] at once
    split at once
    next own =>
      obtain ⟨rfl, fault⟩ := own
      exact ⟨bound, fault⟩
    · cases once

/-- The chain on the register values, once all its reads have succeeded. -/
theorem entries_of_allSucceed (lib : Libpeci) (peci : Peci) (cpu addr : Nat)
    (reads : DiagnosticReads)
    (made : diagnosticReads peci addr (peci.getCPUID addr).2 = some reads)
    (succeed : reads.AllSucceed lib) :
    (verdict lib peci addr).entries cpu = [reads.entry cpu] := by
  -- both models leave the chain with one core value, zero just when every core log is
  have chain : ∃ core, verdict lib peci addr =
      diagnose lib reads.mc4Status (some core) reads.uncoreFIVR ∧
        (core ≠ 0#32 ↔ ∃ read ∈ reads.coreFIVR, read.value ≠ 0#32) := by
    rcases model_cases (peci.getCPUID addr).2 with model | model | ⟨id, model⟩
    · rw [model] at made
      cases made
      have read := succeed.2.1 _ (List.mem_singleton_self _)
      exact ⟨(peci.rdPCIConfigLocal addr 1 30 2 0x80 4).value,
        by simp [verdict, model, skylakeCore, read], by simp⟩
    · rw [model] at made
      cases made
      have read0 := succeed.2.1 _ List.mem_cons_self
      have read1 := succeed.2.1 _ (List.mem_cons_of_mem _ (List.mem_singleton_self _))
      refine ⟨(peci.rdEndPointConfigPciLocal addr 0 14 30 2 0xC0 4).value |||
          (peci.rdEndPointConfigPciLocal addr 0 14 30 2 0xC4 4).value,
        by simp [verdict, model, iceLakeCore, read0, read1], ?_⟩
      rw [ne_eq, or_eq_zero, Classical.not_and_iff_not_or_not]
      simp
    · rw [model] at made
      cases made
  obtain ⟨core, decided, some_core⟩ := chain
  rw [decided]
  unfold diagnose DiagnosticReads.entry
  rw [succeed.1, succeed.2.2]
  simp only [msecVrMismatch_iff, msecFivrCatas_iff, some_core, Bool.false_eq_true, if_false]
  repeat' split
  all_goals rfl

/-- What the scan adds for a CPU depends on the answers at its address alone. -/
theorem cpuEffects_agree (lib : Libpeci) {peci other : Peci} (cpu addr : Nat)
    (agree : AgreeAt peci other addr) :
    cpuEffects lib peci (cpu, addr) = cpuEffects lib other (cpu, addr) := by
  simp only [cpuEffects, atFault, verdict, skylakeCore, iceLakeCore, agree.getCPUID,
    agree.rdPkgConfig, agree.rdIAMSR, agree.rdPCIConfigLocal, agree.rdEndPointConfigPciLocal]

/-- The outcomes of an iceLake CPU and of a skylake CPU are the same: the shared
registers read alike, and the one core log is the two halves taken together. -/
structure SameOutcomes (lib : Libpeci) (iceLake skylake : Peci) (addr : Nat) : Prop where
  mcaErrSrcLog : skylake.rdPkgConfig addr 0 5 4 = iceLake.rdPkgConfig addr 0 5 4
  mc4Status : skylake.rdIAMSR addr 0 0x411 = iceLake.rdIAMSR addr 0 0x411
  uncoreFIVR : skylake.rdPCIConfigLocal addr 1 30 2 0x84 4 =
    iceLake.rdEndPointConfigPciLocal addr 0 14 30 2 0x84 4
  coreFails : peciError lib (skylake.rdPCIConfigLocal addr 1 30 2 0x80 4) =
    (peciError lib (iceLake.rdEndPointConfigPciLocal addr 0 14 30 2 0xC0 4) ||
      peciError lib (iceLake.rdEndPointConfigPciLocal addr 0 14 30 2 0xC4 4))
  coreValue : peciError lib (skylake.rdPCIConfigLocal addr 1 30 2 0x80 4) = false →
    (skylake.rdPCIConfigLocal addr 1 30 2 0x80 4).value =
      (iceLake.rdEndPointConfigPciLocal addr 0 14 30 2 0xC0 4).value |||
        (iceLake.rdEndPointConfigPciLocal addr 0 14 30 2 0xC4 4).value

/-- The two branches do the same on the same outcomes, for every scan so far. -/
theorem iceLakeCase_eq_skylakeCase (lib : Libpeci) (iceLake skylake : Peci) (cpu addr : Nat)
    (scan : IerrScan) (same : SameOutcomes lib iceLake skylake addr) :
    iceLakeCase lib iceLake cpu addr scan = skylakeCase lib skylake cpu addr scan := by
  have core : skylakeCore lib skylake addr = iceLakeCore lib iceLake addr := by
    simp only [skylakeCore, iceLakeCore, ← same.coreFails]
    cases failed : peciError lib (skylake.rdPCIConfigLocal addr 1 30 2 0x80 4) with
    | true => rfl
    | false => simp only [same.coreValue failed]
  rw [iceLakeCase_eq, skylakeCase_eq, same.mcaErrSrcLog, same.mc4Status, same.uncoreFIVR, core]

/-- One behaviour read by both branches: the second half of the core log has a bit. -/
def splitCoreFault (lib : Libpeci) : Peci where
  getCPUID _ := (.ccSuccess, .iceLake)
  rdPkgConfig _ _ _ _ := ⟨.ccSuccess, lib.devCcSuccess, 1#32 <<< 20⟩
  rdIAMSR _ _ _ := ⟨.ccSuccess, lib.devCcSuccess, 0⟩
  rdPCIConfigLocal _ _ _ _ offset _ := ⟨.ccSuccess, lib.devCcSuccess, if offset = 0x80 then 2 else 0⟩
  rdEndPointConfigPciLocal _ _ _ _ _ offset _ :=
    ⟨.ccSuccess, lib.devCcSuccess, if offset = 0xC4 then 2 else 0⟩

theorem iceLakeCase_eq_skylakeCase_split :
    iceLakeCase libpeci (splitCoreFault libpeci) 0 libpeci.minClientAddr .empty =
      skylakeCase libpeci (splitCoreFault libpeci) 0 libpeci.minClientAddr .empty :=
  iceLakeCase_eq_skylakeCase libpeci (splitCoreFault libpeci) (splitCoreFault libpeci) 0
    libpeci.minClientAddr .empty
    ⟨rfl, rfl, rfl, by simp [splitCoreFault, peciError],
      fun _ => by simp [splitCoreFault]⟩

end HostErrorMonitor.Guarantees
