import Mathlib.Tactic.Common
import TuxedoDrivers.Kernel

/-!
# Readings of sensors

What the kernel asks of a driver for hardware monitoring, and readings that
consist of two bytes.
-/

namespace TuxedoDrivers

abbrev eopnotsupp : Int := 95

/-- `enum hwmon_sensor_types`, as far as the drivers tell them apart. -/
inductive HwmonSensorType where
  | temp
  | fan
  | other
  deriving DecidableEq, Repr

/-- The attributes of fans that the drivers tell apart. -/
inductive HwmonFanAttr where
  | min
  | max
  | input
  | other
  deriving DecidableEq, Repr

/-! ## Words -/

/-- `(high << 8) | low`. -/
def wordOfBytes (high low : U8) : U16 :=
  high.setWidth 16 <<< 8 ||| low.setWidth 16

@[simp]
theorem toNat_wordOfBytes (high low : U8) :
    (wordOfBytes high low).toNat = high.toNat * 256 + low.toNat := by
  have highBound := high.isLt
  have lowBound := low.isLt
  have highFits : high.toNat <<< 8 < 2 ^ 16 := by
    rw [Nat.shiftLeft_eq]
    omega
  simp only [wordOfBytes, BitVec.toNat_or, BitVec.toNat_shiftLeft,
    BitVec.toNat_setWidth]
  rw [Nat.mod_eq_of_lt (show high.toNat < 2 ^ 16 by omega),
    Nat.mod_eq_of_lt highFits,
    Nat.mod_eq_of_lt (show low.toNat < 2 ^ 16 by omega),
    ← Nat.shiftLeft_add_eq_or_of_lt lowBound, Nat.shiftLeft_eq]

/-! ## Texts -/

/-- `sysfs_emit` of a number as `%d` with a newline. -/
def sysfsEmitNumber (number : Nat) : String :=
  toString number ++ "\n"

/-- Two texts are the same only of the same number. -/
theorem sysfsEmitNumber_inj {number other : Nat} :
    sysfsEmitNumber number = sysfsEmitNumber other ↔ number = other := by
  constructor
  · intro same
    have characters := congrArg String.toList same
    simp only [sysfsEmitNumber, String.toList_append,
      List.append_cancel_right_eq, Nat.toString_eq_repr, Nat.repr,
      String.toList_ofList] at characters
    have numbers := congrArg (Nat.ofDigitChars 10 · 0) characters
    simpa only [Nat.ofDigitChars_toDigits (by decide : 1 < 10) le_rfl]
      using numbers
  · intro same
    rw [same]

end TuxedoDrivers
