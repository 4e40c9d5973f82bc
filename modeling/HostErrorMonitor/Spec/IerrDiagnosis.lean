import HostErrorMonitor.Source.IerrMonitor

/-!
# What an IERR scan means for one CPU

The abstract reading of `checkIERRCPUs`: a CPU is at fault or not, and a CPU at
fault has one verdict, a function of three register reads. The core FIVR log is
`none` when a read of it failed, so the two CPU models share one chain although
one of them splits that register. `checkIERRCPU_eq` connects both branches of
the source to this reading, and `checkIERRCPUs_eq` the whole loop.
-/
namespace HostErrorMonitor.Spec
open HostErrorMonitor.Source

inductive IerrVerdict where
  | readFailed
  | vrMismatch
  | coreFivrFault
  | uncoreFivrFault
  | unspecific
  deriving DecidableEq, Repr

/-- The entries a verdict writes: one, or none after a failed read. -/
def IerrVerdict.entries (cpu : Nat) : IerrVerdict → List LogEntry
  | .readFailed => []
  | .vrMismatch => [cpuIERRLogType cpu "CPU/VR Mismatch"]
  | .coreFivrFault => [cpuIERRLogType cpu "Core FIVR Fault"]
  | .uncoreFivrFault => [cpuIERRLogType cpu "Uncore FIVR Fault"]
  | .unspecific => [cpuIERRLogCpu cpu]

/-- The verdict in order of priority; a read is looked at only when the ones before decide nothing. -/
def diagnose (lib : Libpeci) (mc4Status : PeciRead 64) (coreFIVR : Option (BitVec 32))
    (uncoreFIVR : PeciRead 32) : IerrVerdict :=
  if peciError lib mc4Status then .readFailed
  else if msecVrMismatch (msecOf mc4Status.value) then .vrMismatch
  else
    match coreFIVR with
    | none => .readFailed
    | some core =>
      if core ≠ 0#32 then .coreFivrFault
      else if peciError lib uncoreFIVR then .readFailed
      else if uncoreFIVR.value ≠ 0#32 ∨ msecFivrCatas (msecOf mc4Status.value) then .uncoreFivrFault
      else .unspecific

def skylakeCore (lib : Libpeci) (peci : Peci) (addr : Nat) : Option (BitVec 32) :=
  let core := peci.rdPCIConfigLocal addr 1 30 2 0x80 4
  if peciError lib core then none else some core.value

/-- The split core register of iceLake as one: failed when a half failed, else the union. -/
def iceLakeCore (lib : Libpeci) (peci : Peci) (addr : Nat) : Option (BitVec 32) :=
  let core0 := peci.rdEndPointConfigPciLocal addr 0 14 30 2 0xC0 4
  let core1 := peci.rdEndPointConfigPciLocal addr 0 14 30 2 0xC4 4
  if peciError lib core0 || peciError lib core1 then none else some (core0.value ||| core1.value)

def supported (model : CPUModel) : Bool := model == .skylake || model == .iceLake

def errSrcBits (mcaErrSrcLog : BitVec 32) : Bool :=
  mcaErrSrcLog.getLsbD 20 || mcaErrSrcLog.getLsbD 27

/-- The CPU answers as a supported model and its MCA_ERR_SRC_LOG reads with bit 20 or 27 set. -/
def atFault (lib : Libpeci) (peci : Peci) (addr : Nat) : Bool :=
  (peci.getCPUID addr).1 == .ccSuccess && supported (peci.getCPUID addr).2 &&
    !peciError lib (peci.rdPkgConfig addr 0 5 4) &&
    errSrcBits (peci.rdPkgConfig addr 0 5 4).value

def verdict (lib : Libpeci) (peci : Peci) (addr : Nat) : IerrVerdict :=
  match (peci.getCPUID addr).2 with
  | .skylake => diagnose lib (peci.rdIAMSR addr 0 0x411) (skylakeCore lib peci addr)
      (peci.rdPCIConfigLocal addr 1 30 2 0x84 4)
  | .iceLake => diagnose lib (peci.rdIAMSR addr 0 0x411) (iceLakeCore lib peci addr)
      (peci.rdEndPointConfigPciLocal addr 0 14 30 2 0x84 4)
  | .other _ => .readFailed

/-- Everything one CPU contributes to the scan. -/
def cpuEffects (lib : Libpeci) (peci : Peci) (cpuAddr : Nat × Nat) : List IerrEffect :=
  if atFault lib peci cpuAddr.2 then
    .incrementCPUErrorCount cpuAddr.1 ::
      ((verdict lib peci cpuAddr.2).entries cpuAddr.1).map .logMessage
  else []

theorem and_shift_ne_zero (x : BitVec 32) (k : Nat) (hk : k < 32) :
    ((x &&& (1#32 <<< k)) != 0#32) = x.getLsbD k := by
  cases bit : x.getLsbD k with
  | true =>
    rw [bne_iff_ne]
    intro zero
    have at_k := congrArg (fun y => y.getLsbD k) zero
    simp only [BitVec.getLsbD_and, bit, BitVec.getLsbD_shiftLeft, BitVec.getLsbD_zero] at at_k
    simp [hk] at at_k
  | false =>
    have zero : x &&& (1#32 <<< k) = 0#32 := by
      apply BitVec.eq_of_getLsbD_eq
      intro i hi
      by_cases same : i = k
      · subst same
        simp [bit]
      · have off : ¬ i - k = 0 ∨ i < k := by omega
        rcases off with off | off <;> simp [off]
    simp [zero]

theorem ierrInternal_eq (x : BitVec 32) : ierrInternal x = errSrcBits x := by
  rw [ierrInternal, errSrcBits, and_shift_ne_zero x 20 (by decide), and_shift_ne_zero x 27 (by decide)]

def logAll (scan : IerrScan) (entries : List LogEntry) : IerrScan :=
  { scan with effects := scan.effects ++ entries.map .logMessage }

@[simp] theorem logAll_nil (scan : IerrScan) : logAll scan [] = scan := by
  simp [logAll]

@[simp] theorem logAll_singleton (scan : IerrScan) (entry : LogEntry) :
    logAll scan [entry] = scan.log entry := rfl

@[simp] theorem supported_skylake : supported .skylake = true := rfl
@[simp] theorem supported_iceLake : supported .iceLake = true := rfl
@[simp] theorem supported_other (id : Nat) : supported (.other id) = false := rfl

theorem model_cases (model : CPUModel) :
    model = .skylake ∨ model = .iceLake ∨ ∃ id, model = .other id := by
  cases model <;> simp

/-- The diagnostic chain of the skylake branch, entered once the CPU is at fault. -/
theorem skylakeCase_eq (lib : Libpeci) (peci : Peci) (cpu addr : Nat) (scan : IerrScan) :
    skylakeCase lib peci cpu addr scan =
      if !peciError lib (peci.rdPkgConfig addr 0 5 4) &&
          ierrInternal (peci.rdPkgConfig addr 0 5 4).value then
        logAll (scan.found cpu) ((diagnose lib (peci.rdIAMSR addr 0 0x411)
          (skylakeCore lib peci addr) (peci.rdPCIConfigLocal addr 1 30 2 0x84 4)).entries cpu)
      else scan := by
  simp only [skylakeCase, diagnose, skylakeCore]
  generalize peci.rdPkgConfig addr 0 5 4 = mca
  generalize peci.rdIAMSR addr 0 0x411 = mc4
  generalize peci.rdPCIConfigLocal addr 1 30 2 0x80 4 = core
  generalize peci.rdPCIConfigLocal addr 1 30 2 0x84 4 = uncore
  cases hmca : peciError lib mca
  case true => simp
  cases hbits : ierrInternal mca.value
  case false => simp
  cases hmc4 : peciError lib mc4
  case true => simp [IerrVerdict.entries]
  cases hvr : msecVrMismatch (msecOf mc4.value)
  case true => simp [IerrVerdict.entries]
  cases hcore : peciError lib core
  case true => simp [IerrVerdict.entries]
  by_cases core0 : core.value = 0#32
  case neg => simp [core0, IerrVerdict.entries]
  cases huncore : peciError lib uncore
  case true => simp [core0, IerrVerdict.entries]
  by_cases uncore0 : uncore.value = 0#32
  case neg => simp [core0, uncore0, IerrVerdict.entries]
  cases hcatas : msecFivrCatas (msecOf mc4.value) <;>
    simp [core0, uncore0, IerrVerdict.entries]

theorem or_eq_zero (x y : BitVec 32) : x ||| y = 0#32 ↔ x = 0#32 ∧ y = 0#32 := by
  constructor
  · intro h
    constructor <;>
    · apply BitVec.eq_of_getLsbD_eq
      intro i hi
      have at_i := congrArg (fun z => z.getLsbD i) h
      simp only [BitVec.getLsbD_or, BitVec.getLsbD_zero, Bool.or_eq_false_iff] at at_i
      simp [at_i]
  · rintro ⟨rfl, rfl⟩
    rfl

/-- The iceLake branch repeats the core condition in its last test; it changes nothing there. -/
theorem iceLakeCase_eq (lib : Libpeci) (peci : Peci) (cpu addr : Nat) (scan : IerrScan) :
    iceLakeCase lib peci cpu addr scan =
      if !peciError lib (peci.rdPkgConfig addr 0 5 4) &&
          ierrInternal (peci.rdPkgConfig addr 0 5 4).value then
        logAll (scan.found cpu) ((diagnose lib (peci.rdIAMSR addr 0 0x411)
          (iceLakeCore lib peci addr)
          (peci.rdEndPointConfigPciLocal addr 0 14 30 2 0x84 4)).entries cpu)
      else scan := by
  simp only [iceLakeCase, diagnose, iceLakeCore]
  generalize peci.rdPkgConfig addr 0 5 4 = mca
  generalize peci.rdIAMSR addr 0 0x411 = mc4
  generalize peci.rdEndPointConfigPciLocal addr 0 14 30 2 0xC0 4 = core0
  generalize peci.rdEndPointConfigPciLocal addr 0 14 30 2 0xC4 4 = core1
  generalize peci.rdEndPointConfigPciLocal addr 0 14 30 2 0x84 4 = uncore
  cases hmca : peciError lib mca
  case true => simp
  cases hbits : ierrInternal mca.value
  case false => simp
  cases hmc4 : peciError lib mc4
  case true => simp [IerrVerdict.entries]
  cases hvr : msecVrMismatch (msecOf mc4.value)
  case true => simp [IerrVerdict.entries]
  cases hcore0 : peciError lib core0
  case true => simp [IerrVerdict.entries]
  cases hcore1 : peciError lib core1
  case true => simp [IerrVerdict.entries]
  by_cases zero : core0.value = 0#32 ∧ core1.value = 0#32
  case neg =>
    have nonzero : ¬ core0.value ||| core1.value = 0#32 := fun h => zero ((or_eq_zero _ _).mp h)
    have some_half : core0.value ≠ 0#32 ∨ core1.value ≠ 0#32 := by
      rcases Classical.em (core0.value = 0#32) with h | h
      · exact Or.inr fun h1 => zero ⟨h, h1⟩
      · exact Or.inl h
    simp [nonzero, some_half, IerrVerdict.entries]
  obtain ⟨z0, z1⟩ := zero
  cases huncore : peciError lib uncore
  case true => simp [z0, z1, IerrVerdict.entries]
  by_cases uncore0 : uncore.value = 0#32
  case neg => simp [z0, z1, uncore0, IerrVerdict.entries]
  cases hcatas : msecFivrCatas (msecOf mc4.value) <;>
    simp [z0, z1, uncore0, IerrVerdict.entries]

/-- One pass of the loop: a CPU at fault is counted and gets its verdict's entries. -/
theorem checkIERRCPU_eq (lib : Libpeci) (peci : Peci) (scan : IerrScan) (cpuAddr : Nat × Nat) :
    checkIERRCPU lib peci scan cpuAddr =
      { cpuIERRFound := scan.cpuIERRFound || atFault lib peci cpuAddr.2
        effects := scan.effects ++ cpuEffects lib peci cpuAddr } := by
  obtain ⟨cpu, addr⟩ := cpuAddr
  simp only [checkIERRCPU, cpuEffects, atFault, verdict, skylakeCase_eq, iceLakeCase_eq,
    ierrInternal_eq]
  by_cases hs : (peci.getCPUID addr).1 = .ccSuccess
  case neg =>
    have absent : ((peci.getCPUID addr).1 == .ccSuccess) = false := by simpa using hs
    simp [bne, absent]
  rcases Bool.eq_false_or_eq_true (peciError lib (peci.rdPkgConfig addr 0 5 4)) with herr | herr <;>
    rcases Bool.eq_false_or_eq_true (errSrcBits (peci.rdPkgConfig addr 0 5 4).value)
      with hbits | hbits <;>
    rcases model_cases (peci.getCPUID addr).2 with hm | hm | ⟨id, hm⟩ <;>
    simp [hs, hm, herr, hbits, logAll, IerrScan.found]

theorem foldl_checkIERRCPU (lib : Libpeci) (peci : Peci) (cpus : List (Nat × Nat))
    (scan : IerrScan) :
    cpus.foldl (checkIERRCPU lib peci) scan =
      { cpuIERRFound := scan.cpuIERRFound || cpus.any fun c => atFault lib peci c.2
        effects := scan.effects ++ cpus.flatMap (cpuEffects lib peci) } := by
  induction cpus generalizing scan with
  | nil => simp
  | cons c cpus ih =>
    rw [List.foldl_cons, ih, checkIERRCPU_eq]
    simp [Bool.or_assoc]

/-- The scan is the concatenation of what each CPU contributes on its own. -/
theorem checkIERRCPUs_eq (lib : Libpeci) (peci : Peci) :
    checkIERRCPUs lib peci =
      { cpuIERRFound := (clientAddrs lib).any fun c => atFault lib peci c.2
        effects := (clientAddrs lib).flatMap (cpuEffects lib peci) } := by
  rw [checkIERRCPUs, foldl_checkIERRCPU]
  simp [IerrScan.empty]

end HostErrorMonitor.Spec
