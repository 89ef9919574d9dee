import Mathlib.Algebra.Group.Nat.Defs
import Mathlib.Logic.Function.Basic
import TuxedoDrivers.Interaction.Program
import TuxedoDrivers.Kernel

/-!
# EC RAM of the NB05 machines

The accesses of `tuxedo_nb05_ec.c`, which cannot fail, and what it keeps for
the other drivers of these machines.
-/

namespace TuxedoDrivers.Nb05

open Interaction

inductive EcRequest where
  | readEcRam (address : U16)
  | writeEcRam (address : U16) (data : U8)

abbrev EcRequest.Answer : EcRequest → Type
  | .readEcRam _ => U8
  | .writeEcRam _ _ => Unit

abbrev ecSignature : Signature :=
  ⟨EcRequest, EcRequest.Answer⟩

abbrev Ec (α : Type) : Type :=
  Program ecSignature α

def nb05ReadEcRam (address : U16) : Ec U8 :=
  Program.request (S := ecSignature) (.readEcRam address)

def nb05WriteEcRam (address : U16) (data : U8) : Ec Unit :=
  Program.request (S := ecSignature) (.writeEcRam address data)

/-- The major and the minor version. -/
def nb05ReadEcFwVersion : Ec (U8 × U8) := do
  let major ← nb05ReadEcRam 0x0400
  let minor ← nb05ReadEcRam 0x0401
  return (major, minor)

/-- `struct nb05_device_data_t`. -/
structure DeviceData where
  numberFans : Nat
  fanctlOnereg : Bool
  deriving DecidableEq, Repr

def dataPulse : DeviceData :=
  { numberFans := 2, fanctlOnereg := false }

def dataInfinityflex : DeviceData :=
  { numberFans := 1, fanctlOnereg := true }

/-- The data of the entries of `tuxedo_nb05_id_table`. -/
def nb05Devices : List DeviceData :=
  [dataPulse, dataPulse, dataInfinityflex]

/-- `struct nb05_ec_data_t`. -/
structure EcData where
  verMajor : U8
  verMinor : U8
  devData : DeviceData
  deriving DecidableEq, Repr

/-- What the probe keeps of a machine. -/
def tuxedoNb05EcProbe (devData : DeviceData) : Ec EcData := do
  let version ← nb05ReadEcFwVersion
  return ⟨version.1, version.2, devData⟩

/-! ## Plain RAM -/

abbrev Ram : Type := U16 → U8

def ramEc : Environment ecSignature Ram
  | .readEcRam address, ram => (ram address, ram)
  | .writeEcRam address data, ram => ((), Function.update ram address data)

section Rules

variable (ram : Ram)

@[simp]
theorem run_nb05ReadEcRam (address : U16) :
    (nb05ReadEcRam address).run ramEc ram = (ram address, ram) :=
  (rfl)

@[simp]
theorem run_nb05WriteEcRam (address : U16) (data : U8) :
    (nb05WriteEcRam address data).run ramEc ram =
      ((), Function.update ram address data) :=
  (rfl)

@[simp]
theorem run_tuxedoNb05EcProbe (devData : DeviceData) :
    (tuxedoNb05EcProbe devData).run ramEc ram =
      (⟨ram 0x0400, ram 0x0401, devData⟩, ram) :=
  (rfl)

end Rules

/-! ## Registers one after the other -/

/-- A loop over the registers from the first to the last. -/
def writeRegisters (first last : Nat) (data : U8) : Ec PUnit :=
  (List.range' first (last + 1 - first)).forM fun reg =>
    nb05WriteEcRam (BitVec.ofNat 16 reg) data

theorem run_forM_nb05WriteEcRam (registers : List Nat)
    (fits : ∀ reg ∈ registers, reg < 2 ^ 16) (data : U8) (ram : Ram)
    (address : U16) :
    ((registers.forM fun reg =>
        nb05WriteEcRam (BitVec.ofNat 16 reg) data).run ramEc ram).2 address =
      if address.toNat ∈ registers then data else ram address := by
  induction registers generalizing ram with
  | nil =>
      rfl
  | cons reg rest inductionHypothesis =>
      have fitsRest : ∀ other ∈ rest, other < 2 ^ 16 :=
        fun other member => fits other (List.mem_cons_of_mem reg member)
      have fitsHere : reg < 2 ^ 16 := fits reg List.mem_cons_self
      simp only [List.forM_eq_forM, List.forM_cons, Program.run_bind,
        run_nb05WriteEcRam]
      simp only [List.forM_eq_forM] at inductionHypothesis
      rw [inductionHypothesis fitsRest]
      by_cases here : address.toNat = reg
      · have sameAddress : address = BitVec.ofNat 16 reg := by
          rw [← here, BitVec.ofNat_toNat, BitVec.setWidth_eq]
        rw [sameAddress, Function.update_self, ite_self, if_pos]
        rw [← sameAddress, here]
        exact List.mem_cons_self
      · have otherAddress : address ≠ BitVec.ofNat 16 reg := by
          intro same
          apply here
          rw [same, BitVec.toNat_ofNat, Nat.mod_eq_of_lt fitsHere]
        rw [Function.update_of_ne otherAddress]
        simp only [List.mem_cons, here, false_or]

theorem run_writeRegisters {first last : Nat} (fits : last < 2 ^ 16)
    (data : U8) (ram : Ram) (address : U16) :
    ((writeRegisters first last data).run ramEc ram).2 address =
      if first ≤ address.toNat ∧ address.toNat ≤ last then data
      else ram address := by
  have within : ∀ reg ∈ List.range' first (last + 1 - first),
      reg < 2 ^ 16 := by
    intro reg member
    have bounds := List.mem_range'_1.mp member
    omega
  have member :
      address.toNat ∈ List.range' first (last + 1 - first) ↔
        first ≤ address.toNat ∧ address.toNat ≤ last := by
    rw [List.mem_range'_1]
    omega
  rw [writeRegisters, run_forM_nb05WriteEcRam _ within]
  simp only [member]

end TuxedoDrivers.Nb05
