import Mathlib.Data.List.GetD
import TuxedoDrivers.Stk8321.Accelerometer

/-!
# The mount matrix from the firmware

Each byte of the buffer selects an axis by two bits, which can have four
values.  A matrix has three rows, and what follows it in memory is the lock of
the driver.
-/

namespace TuxedoDrivers.Stk8321

open Interaction

/-! ## Matrices -/

/-- The entry in this row and column. -/
def entryIndex (row column : Nat) : Nat :=
  column + row * 3

def IsSign (value : String) : Prop :=
  value = "1" ∨ value = "-1"

/-- The writes stay within the nine entries, and after them every column has
exactly one entry that is not zero. -/
structure MatrixBuilt (writes : MatrixWrites) : Prop where
  inBounds : ∀ write ∈ writes, write.1 < 9
  columns : ∀ (memory : Nat → String), ∀ column < 3, ∃ row < 3,
    IsSign (applyWrites writes memory (entryIndex row column)) ∧
      ∀ other < 3, other ≠ row →
        applyWrites writes memory (entryIndex other column) = "0"

/-- The bits of a byte denote one of the three axes. -/
def DenotesAxis (byte : U8) : Prop :=
  byte &&& 0x3 ≠ 0x3

theorem denotesAxis_iff (byte : U8) :
    DenotesAxis byte ↔ (byte &&& 0x3).toNat < 3 := by
  revert byte
  unfold DenotesAxis
  decide +kernel

theorem isSign_axisWrite (i : Nat) (byte : U8) :
    IsSign (axisWrite i byte).2 := by
  unfold axisWrite IsSign
  by_cases flips : byte &&& 0x10 ≠ 0
  · exact Or.inr (if_pos flips)
  · exact Or.inl (if_neg flips)

/-- Column and row of an entry that a byte selects. -/
theorem axisWrite_index_eq_iff {i column : Nat} {row : Nat} (byte : U8)
    (small : i < 3) (smallColumn : column < 3) :
    entryIndex row column = (axisWrite i byte).1 ↔
      column = i ∧ row = (byte &&& 0x3).toNat := by
  change column + row * 3 = i + (byte &&& 0x3).toNat * 3 ↔ _
  omega

theorem zeromatrix_apply (memory : Nat → String) {index : Nat}
    (small : index < 9) :
    applyWrites zeromatrixWrites memory index = "0" := by
  have zero : ∀ index : Fin 9, lastWrite index.val zeromatrixWrites =
      some "0" := by
    decide
  rw [applyWrites_apply, zero ⟨index, small⟩]
  rfl

/-- A write to another column. -/
theorem update_axisWrite_of_ne {i column : Nat} (row : Nat) (byte : U8)
    (small : i < 3) (smallColumn : column < 3) (other : column ≠ i)
    (memory : Nat → String) :
    Function.update memory (axisWrite i byte).1 (axisWrite i byte).2
      (entryIndex row column) = memory (entryIndex row column) := by
  apply Function.update_of_ne
  intro same
  exact other
    ((axisWrite_index_eq_iff byte small smallColumn).mp same).1

/-- A write to the same column. -/
theorem update_axisWrite_self {column : Nat} (row : Nat) (byte : U8)
    (small : column < 3) (memory : Nat → String) :
    Function.update memory (axisWrite column byte).1
        (axisWrite column byte).2 (entryIndex row column) =
      if row = (byte &&& 0x3).toNat then (axisWrite column byte).2
      else memory (entryIndex row column) := by
  by_cases selected : row = (byte &&& 0x3).toNat
  · have same : entryIndex row column = (axisWrite column byte).1 :=
      (axisWrite_index_eq_iff byte small small).mpr ⟨rfl, selected⟩
    rw [if_pos selected, same, Function.update_self]
  · rw [if_neg selected]
    apply Function.update_of_ne
    intro same
    exact selected ((axisWrite_index_eq_iff byte small small).mp same).2

/-- The entries of a column, of which its byte selects one. -/
theorem matrix_apply (first second third : U8) (memory : Nat → String)
    {row column : Nat} (smallRow : row < 3) (smallColumn : column < 3) :
    let byte := [first, second, third].getD column 0
    applyWrites (zeromatrixWrites ++ axisWrites [first, second, third])
        memory (entryIndex row column) =
      if row = (byte &&& 0x3).toNat then (axisWrite column byte).2
      else "0" := by
  have written : applyWrites
      (zeromatrixWrites ++ axisWrites [first, second, third]) memory =
        Function.update
          (Function.update
            (Function.update (applyWrites zeromatrixWrites memory)
              (axisWrite 0 first).1 (axisWrite 0 first).2)
            (axisWrite 1 second).1 (axisWrite 1 second).2)
          (axisWrite 2 third).1 (axisWrite 2 third).2 := by
    rw [applyWrites_append]
    rfl
  have inside : entryIndex row column < 9 := by
    unfold entryIndex
    omega
  have zero := zeromatrix_apply memory inside
  have columns : column = 0 ∨ column = 1 ∨ column = 2 := by omega
  rw [written]
  rcases columns with rfl | rfl | rfl
  · rw [update_axisWrite_of_ne row third (by decide) smallColumn (by decide),
      update_axisWrite_of_ne row second (by decide) smallColumn (by decide),
      update_axisWrite_self row first smallColumn, zero]
    rfl
  · rw [update_axisWrite_of_ne row third (by decide) smallColumn (by decide),
      update_axisWrite_self row second smallColumn,
      update_axisWrite_of_ne row first (by decide) smallColumn (by decide),
      zero]
    rfl
  · rw [update_axisWrite_self row third smallColumn,
      update_axisWrite_of_ne row second (by decide) smallColumn (by decide),
      update_axisWrite_of_ne row first (by decide) smallColumn (by decide),
      zero]
    rfl

/-- The writes of a buffer build a matrix exactly if all its bytes denote an
axis. -/
theorem matrixBuilt_iff {bytes : List U8} (three : bytes.length = 3) :
    MatrixBuilt (zeromatrixWrites ++ axisWrites bytes) ↔
      ∀ byte ∈ bytes, DenotesAxis byte := by
  obtain ⟨first, second, third, rfl⟩ := List.length_eq_three.mp three
  have axes : axisWrites [first, second, third] =
      [axisWrite 0 first, axisWrite 1 second, axisWrite 2 third] := rfl
  have inBounds : ∀ (i : Nat) (byte : U8), i < 3 →
      ((axisWrite i byte).1 < 9 ↔ DenotesAxis byte) := by
    intro i byte small
    rw [denotesAxis_iff]
    change i + (byte &&& 0x3).toNat * 3 < 9 ↔ _
    omega
  constructor
  · intro built
    have bounded := built.inBounds
    rw [axes] at bounded
    simp only [List.forall_mem_append, List.forall_mem_cons] at bounded ⊢
    exact
      ⟨(inBounds 0 first (by decide)).mp bounded.2.1,
        (inBounds 1 second (by decide)).mp bounded.2.2.1,
        (inBounds 2 third (by decide)).mp bounded.2.2.2.1, nofun⟩
  · intro denote
    constructor
    · have zeros : ∀ write ∈ zeromatrixWrites, write.1 < 9 := by
        decide
      rw [axes]
      simp only [List.forall_mem_append, List.forall_mem_cons] at denote ⊢
      exact
        ⟨zeros, (inBounds 0 first (by decide)).mpr denote.1,
          (inBounds 1 second (by decide)).mpr denote.2.1,
          (inBounds 2 third (by decide)).mpr denote.2.2.1, nofun⟩
    · intro memory column smallColumn
      have isByte : [first, second, third].getD column 0 ∈
          [first, second, third] := by
        rw [List.getD_eq_getElem _ _ smallColumn]
        exact List.getElem_mem smallColumn
      have axis := (denotesAxis_iff _).mp (denote _ isByte)
      refine ⟨_, axis, ?_, ?_⟩
      · rw [matrix_apply first second third memory axis smallColumn,
          if_pos rfl]
        exact isSign_axisWrite column _
      · intro other smallOther different
        rw [matrix_apply first second third memory smallOther smallColumn,
          if_neg different]

/-! ## The method of the firmware -/

section Firmware

variable {σ : Type} (environment : Environment stkSignature σ) (state : σ)
  (methodName : String)

/-- What the method returns, if the device has it and it can be evaluated. -/
def returnedObject : Option AcpiObject :=
  if (environment .acpiCompanion state).1 = false then none
  else if (environment (.acpiHasMethod methodName)
      (environment .acpiCompanion state).2).1 = false then none
  else
    (environment (.acpiEvaluateObject methodName)
      (environment (.acpiHasMethod methodName)
        (environment .acpiCompanion state).2).2).1.join

/-- An error, or a matrix built within its bounds. -/
def OrientationSafe (result : Int × MatrixWrites) : Prop :=
  result.1 < 0 ∨ result.1 = 0 ∧ MatrixBuilt result.2

theorem orientationSafe_of_error {error : Int} (negative : error < 0)
    (writes : MatrixWrites) : OrientationSafe (error, writes) :=
  Or.inl negative

/-- A buffer that the driver reads the matrix from. -/
def ReturnsThreeBytes (bytes : List U8) : Prop :=
  returnedObject environment state methodName = some (.buffer bytes) ∧
    bytes.length = 3

/-- What the function returns and writes. -/
theorem run_stk8321ApplyAcpiOrientation :
    (∃ bytes, ReturnsThreeBytes environment state methodName bytes ∧
      ((stk8321ApplyAcpiOrientation methodName).run environment state).1 =
        (0, zeromatrixWrites ++ axisWrites bytes)) ∨
    (∀ bytes, ¬ ReturnsThreeBytes environment state methodName bytes) ∧
      ∃ error < 0,
        ((stk8321ApplyAcpiOrientation methodName).run environment
          state).1 = (error, []) := by
  have first :
      (request .acpiCompanion).run environment state =
        environment .acpiCompanion state := rfl
  have second : ∀ reached,
      (request (.acpiHasMethod methodName)).run environment reached =
        environment (.acpiHasMethod methodName) reached := fun _ => rfl
  have third : ∀ reached,
      (request (.acpiEvaluateObject methodName)).run environment reached =
        environment (.acpiEvaluateObject methodName) reached := fun _ => rfl
  have noDevice : -enodev < 0 := by decide
  have unexpected : -eio < 0 := by decide
  unfold ReturnsThreeBytes returnedObject
  rw [stk8321ApplyAcpiOrientation, Program.run_bind, first]
  cases (environment .acpiCompanion state).1 with
  | false =>
      exact Or.inr ⟨nofun, -enodev, noDevice, rfl⟩
  | true =>
      simp only [Bool.true_eq_false, if_false, Program.run_bind, second]
      cases (environment (.acpiHasMethod methodName)
          (environment .acpiCompanion state).2).1 with
      | false =>
          exact Or.inr ⟨nofun, -enodev, noDevice, rfl⟩
      | true =>
          simp only [Bool.true_eq_false, if_false, Program.run_bind, third]
          rcases (environment (.acpiEvaluateObject methodName)
              (environment (.acpiHasMethod methodName)
                (environment .acpiCompanion state).2).2).1 with
            _ | _ | object
          · exact Or.inr ⟨nofun, -eio, unexpected, rfl⟩
          · exact Or.inr ⟨nofun, -eio, unexpected, rfl⟩
          · cases object with
            | other =>
                exact Or.inr ⟨nofun, -eio, unexpected, rfl⟩
            | buffer bytes =>
                by_cases three : bytes.length = 3
                · apply Or.inl
                  refine ⟨bytes, ⟨rfl, three⟩, ?_⟩
                  simp only [three, ne_eq, not_true_eq_false, if_false]
                  rfl
                · apply Or.inr
                  refine ⟨?_, -eio, unexpected, ?_⟩
                  · rintro other ⟨returned, length⟩
                    cases returned
                    exact three length
                  · simp only [three, ne_eq, not_false_eq_true, if_true]
                    rfl

/-- The orientation is applied safely exactly if every byte of a buffer of
three bytes denotes an axis. -/
theorem orientationSafe_iff :
    OrientationSafe
        ((stk8321ApplyAcpiOrientation methodName).run environment state).1 ↔
      ∀ bytes, ReturnsThreeBytes environment state methodName bytes →
        ∀ byte ∈ bytes, DenotesAxis byte := by
  rcases run_stk8321ApplyAcpiOrientation environment state methodName with
    ⟨bytes, returned, result⟩ | ⟨other, error, negative, result⟩
  · have same : ∀ other,
        ReturnsThreeBytes environment state methodName other →
          other = bytes := by
      intro other otherReturned
      have equal := otherReturned.1.symm.trans returned.1
      cases equal
      rfl
    have safe : OrientationSafe
        (0, zeromatrixWrites ++ axisWrites bytes) ↔
          ∀ byte ∈ bytes, DenotesAxis byte := by
      rw [← matrixBuilt_iff returned.2]
      exact
        ⟨fun outcome => (outcome.resolve_left (Int.lt_irrefl 0)).2,
          fun built => Or.inr ⟨rfl, built⟩⟩
    rw [result, safe]
    constructor
    · intro denote other otherReturned
      rw [same other otherReturned]
      exact denote
    · intro all
      exact all bytes returned
  · rw [result]
    exact
      iff_of_true (orientationSafe_of_error negative [])
        fun bytes returned => absurd returned (other bytes)

end Firmware

/-- Firmware whose methods return these bytes, on a bus without errors. -/
def bytesFirmware (bytes : List U8) : Environment stkSignature Unit
  | .devmIioDeviceAlloc, _ => (true, ())
  | .i2cSmbusReadByteData _, _ => (0, ())
  | .i2cSmbusWriteByteData _ _, _ => (0, ())
  | .acpiCompanion, _ => (true, ())
  | .acpiHasMethod _, _ => (true, ())
  | .acpiEvaluateObject _, _ => (some (some (.buffer bytes)), ())
  | .iioReadMountMatrix, _ => ((0, []), ())
  | .i2cAcpiNewDevice, _ => ((), ())
  | .devmIioDeviceRegister, _ => (0, ())

/-- A byte that denotes no axis is written behind the matrix, and its column
stays zero. -/
theorem fourth_axis_is_written_out_of_bounds :
    let result := ((stk8321ApplyAcpiOrientation "GETO").run
      (bytesFirmware [0x03, 0x10, 0x02]) ()).1
    result.1 = 0 ∧ (9, "1") ∈ result.2 ∧ ¬ OrientationSafe result := by
  intro result
  have succeeds : result.1 = 0 := rfl
  have written : (9, "1") ∈ result.2 := by decide
  refine ⟨succeeds, written, ?_⟩
  rintro (negative | ⟨-, built⟩)
  · exact absurd negative (by decide)
  · exact absurd (built.inBounds (9, "1") written) (by decide)

example : axisWrites [0x00, 0x11, 0x02] = [(0, "1"), (4, "-1"), (8, "1")] := by
  decide

end TuxedoDrivers.Stk8321
