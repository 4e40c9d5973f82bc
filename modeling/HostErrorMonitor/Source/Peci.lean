import Mathlib.Algebra.BigOperators.Group.List.Basic
import Mathlib.Data.List.Nodup

/-!
PECI access as the monitors use it (host_error_monitor.hpp:142-147 and the
peci_* calls of the LIBPECI build). The library is outside the repository, so
its constants are a parameter and a behaviour answers every read with a status,
a completion code and a value. A client address is one byte in that library.
-/
namespace HostErrorMonitor.Source

/-- The status codes the monitors tell apart; every other code is an error. -/
inductive EPECIStatus where
  | ccSuccess
  | ccCpuNotPresent
  | other (code : Nat)
  deriving DecidableEq, Repr

inductive CPUModel where
  | skylake
  | iceLake
  | other (id : Nat)
  deriving DecidableEq, Repr

/-- Constants of the PECI library. -/
structure Libpeci where
  minClientAddr : Nat
  maxClientAddr : Nat
  maxClientAddr_lt : maxClientAddr < 256
  devCcSuccess : BitVec 8
  devCcFatalMcaDetected : BitVec 8

/-- What one register read leaves in the caller's status, `cc` and value. -/
structure PeciRead (w : Nat) where
  status : EPECIStatus
  cc : BitVec 8
  value : BitVec w
  deriving DecidableEq, Repr

/-- A PECI behaviour: the answer to each call at each client address. -/
structure Peci where
  getCPUID : (addr : Nat) → EPECIStatus × CPUModel
  rdPkgConfig : (addr index param readLen : Nat) → PeciRead 32
  rdIAMSR : (addr threadId msr : Nat) → PeciRead 64
  rdPCIConfigLocal : (addr bus dev fn offset readLen : Nat) → PeciRead 32
  rdEndPointConfigPciLocal : (addr seg bus dev fn offset readLen : Nat) → PeciRead 32

def peciError (lib : Libpeci) {w : Nat} (read : PeciRead w) : Bool :=
  read.status != .ccSuccess ||
    (read.cc != lib.devCcSuccess && read.cc != lib.devCcFatalMcaDetected)

/-- The pairs (cpu, addr) that the loops over the client addresses visit, in order. -/
def clientAddrs (lib : Libpeci) : List (Nat × Nat) :=
  (List.range (lib.maxClientAddr + 1 - lib.minClientAddr)).map
    fun cpu => (cpu, lib.minClientAddr + cpu)

theorem mem_clientAddrs (lib : Libpeci) (cpu addr : Nat) :
    (cpu, addr) ∈ clientAddrs lib ↔
      addr = lib.minClientAddr + cpu ∧ addr ≤ lib.maxClientAddr := by
  simp only [clientAddrs, List.mem_map, List.mem_range, Prod.mk.injEq]
  constructor
  · rintro ⟨_, bound, rfl, rfl⟩
    exact ⟨rfl, by omega⟩
  · rintro ⟨rfl, bound⟩
    exact ⟨cpu, by omega, rfl, rfl⟩

/-- What is counted of a loop over the CPUs is counted in one pass, when the
passes for the other CPUs have none of it. -/
theorem countP_clientAddrs {α : Type*} (lib : Libpeci) (pass : Nat × Nat → List α) (p : α → Bool)
    (cpu addr : Nat) (visited : (cpu, addr) ∈ clientAddrs lib)
    (others : ∀ c ∈ clientAddrs lib, c.1 ≠ cpu → (pass c).countP p = 0) :
    ((clientAddrs lib).flatMap pass).countP p = (pass (cpu, addr)).countP p := by
  have distinct : (clientAddrs lib).Nodup :=
    List.Nodup.map (fun _ _ h => congrArg Prod.fst h) List.nodup_range
  have silent : ∀ c, c ≠ (cpu, addr) → c ∈ clientAddrs lib → (pass c).countP p = 0 := by
    intro c different member
    apply others c member
    rintro rfl
    have here := ((mem_clientAddrs lib _ _).mp visited).1
    have there := ((mem_clientAddrs lib c.1 c.2).mp member).1
    exact different (Prod.ext rfl (there.trans here.symm))
  have once := @List.count_eq_one_of_mem _ instBEqOfDecidableEq inferInstance _ _ distinct visited
  rw [List.countP_flatMap, Function.comp_def, List.sum_map_eq_nsmul_single (cpu, addr) _ silent,
    once, one_nsmul]

end HostErrorMonitor.Source
