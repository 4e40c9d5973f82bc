import HostErrorMonitor.Source.BaseMonitor
import HostErrorMonitor.Source.Peci

/-!
`checkErrPinCPUs` of the LIBPECI build (host_error_monitor.hpp:178-245): the CPUs
whose ERRPINSTS shows an ERR pin. A bitset of `n` CPUs is a bit vector; a write
outside of it, which the constants of the library rule out, is dropped.
-/
namespace HostErrorMonitor.Source

/-- `errPinCPUs[cpu] = value`. -/
def setCPU {n : Nat} (errPinCPUs : BitVec n) (cpu : Nat) (value : Bool) : BitVec n :=
  if value then errPinCPUs ||| BitVec.twoPow n cpu else errPinCPUs &&& ~~~BitVec.twoPow n cpu

/-- `(errpinsts & (1 << errPin)) != 0`. -/
def errPinStatus (errpinsts : BitVec 32) (errPin : Nat) : Bool :=
  (errpinsts &&& (1#32 <<< errPin)) != 0#32

/-- One pass of the loop body. -/
def checkErrPinCPU {n : Nat} (lib : Libpeci) (peci : Peci) (errPin : Nat) (errPinCPUs : BitVec n)
    (cpuAddr : Nat × Nat) : BitVec n :=
  let cpu := cpuAddr.1
  let addr := cpuAddr.2
  let cpuid := peci.getCPUID addr
  if cpuid.1 != .ccSuccess then errPinCPUs
  else
    match cpuid.2 with
    | .skylake =>
      let errpinsts := peci.rdPCIConfigLocal addr 0 8 0 0x210 4
      if peciError lib errpinsts then errPinCPUs
      else setCPU errPinCPUs cpu (errPinStatus errpinsts.value errPin)
    | .iceLake =>
      let errpinsts := peci.rdEndPointConfigPciLocal addr 0 13 0 3 0x274 4
      if peciError lib errpinsts then errPinCPUs
      else setCPU errPinCPUs cpu (errPinStatus errpinsts.value errPin)
    | .other _ => errPinCPUs

/-- The bitset is reset before it is filled. -/
def checkErrPinCPUs {n : Nat} (lib : Libpeci) (peci : Peci) (errPin : Nat)
    (_errPinCPUs : BitVec n) : BitVec n :=
  (clientAddrs lib).foldl (checkErrPinCPU lib peci errPin) 0#n

/-- `MAX_CPUS`: one CPU for each client address. -/
def Libpeci.maxCPUs (lib : Libpeci) : Nat := lib.maxClientAddr + 1 - lib.minClientAddr

def errPinEntry (msg : String) : LogEntry :=
  { priority := .logInfo, msg := msg, redfishId := "OpenBMC.0.1.CPUError", redfishMsg := msg }

/-- How the monitors of ERR pins log a bitset: an entry for each CPU that it flags,
or the one that names none. -/
def logCPUs {n : Nat} (errPinCPUs : BitVec n) (log : LogEntry) (logCpu : Nat → LogEntry) :
    List LogEntry :=
  if errPinCPUs == 0#n then [log]
  else (List.range n).flatMap fun i => if errPinCPUs.getLsbD i then [logCpu i] else []

/-- The CPUs of a bitset, in ascending order. -/
def flaggedCPUs {n : Nat} (errPinCPUs : BitVec n) : List Nat :=
  (List.range n).filter (errPinCPUs.getLsbD ·)

theorem mem_flaggedCPUs {n : Nat} (errPinCPUs : BitVec n) (cpu : Nat) :
    cpu ∈ flaggedCPUs errPinCPUs ↔ errPinCPUs.getLsbD cpu = true := by
  unfold flaggedCPUs
  rw [List.mem_filter, List.mem_range]
  exact ⟨And.right, fun flag => ⟨BitVec.lt_of_getLsbD flag, flag⟩⟩

theorem flaggedCPUs_ascending {n : Nat} (errPinCPUs : BitVec n) :
    (flaggedCPUs errPinCPUs).Pairwise (· < ·) :=
  List.Pairwise.filter _ List.pairwise_lt_range

theorem logCPUs_eq {n : Nat} (errPinCPUs : BitVec n) (log : LogEntry) (logCpu : Nat → LogEntry) :
    logCPUs errPinCPUs log logCpu =
      if errPinCPUs = 0#n then [log] else (flaggedCPUs errPinCPUs).map logCpu := by
  have loop : ∀ cpus : List Nat,
      (cpus.flatMap fun i => if errPinCPUs.getLsbD i then [logCpu i] else []) =
        (cpus.filter (errPinCPUs.getLsbD ·)).map logCpu := by
    intro cpus
    induction cpus with
    | nil => rfl
    | cons i cpus ih =>
      rw [List.flatMap_cons, ih, List.filter_cons]
      split
      · rfl
      · rfl
  unfold logCPUs flaggedCPUs
  rw [loop]
  by_cases clear : errPinCPUs = 0#n
  · rw [if_pos clear, if_pos (beq_iff_eq.mpr clear)]
  · rw [if_neg clear, if_neg fun same => clear (beq_iff_eq.mp same)]

/-- A write to one CPU of the bitset leaves the others as they are. -/
theorem getLsbD_setCPU {n : Nat} (errPinCPUs : BitVec n) (cpu i : Nat) (value : Bool)
    (inside : i < n) :
    (setCPU errPinCPUs cpu value).getLsbD i = if i = cpu then value else errPinCPUs.getLsbD i := by
  unfold setCPU
  cases value with
  | true =>
    rw [if_pos rfl, BitVec.getLsbD_or, BitVec.getLsbD_twoPow]
    by_cases here : i = cpu
    · simp [here, here ▸ inside]
    · simp [here, Ne.symm here]
  | false =>
    rw [if_neg Bool.false_ne_true, BitVec.getLsbD_and, BitVec.getLsbD_not, BitVec.getLsbD_twoPow]
    by_cases here : i = cpu
    · simp [here, here ▸ inside]
    · simp [here, Ne.symm here, inside]

end HostErrorMonitor.Source
