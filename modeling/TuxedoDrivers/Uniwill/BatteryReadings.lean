import TuxedoDrivers.Hwmon
import TuxedoDrivers.Uniwill.EcAccess

/-!
# Readings of the battery

The attributes of the battery that show two registers of the EC as they are.
-/

namespace TuxedoDrivers.Uniwill

open Interaction

abbrev uwEcRegBatteryCycnLo : U16 := 0x04A6
abbrev uwEcRegBatteryCycnHi : U16 := 0x04A7
abbrev uwEcRegBatteryXif1Lo : U16 := 0x0402
abbrev uwEcRegBatteryXif1Hi : U16 := 0x0403
abbrev uwEcRegBatteryXif2Lo : U16 := 0x0404
abbrev uwEcRegBatteryXif2Hi : U16 := 0x0405

def uniwillReadEcRamU16 (hibyteAddress lobyteAddress : U16) :
    Driver (Except Int U16) := do
  let hi ← uniwillReadEcRam hibyteAddress
  if hi.status ≠ 0 then
    return .error hi.status
  else
    let lo ← uniwillReadEcRam lobyteAddress
    if lo.status ≠ 0 then
      return .error lo.status
    else
      return .ok (wordOfBytes hi.data lo.data)

/-- The three attributes: the error of the read, or the text. -/
def rawWordShow (hibyteAddress lobyteAddress : U16) :
    Driver (Except Int String) := do
  let result ← uniwillReadEcRamU16 hibyteAddress lobyteAddress
  return result.map fun word => sysfsEmitNumber word.toNat

def rawCycleCountShow : Driver (Except Int String) :=
  rawWordShow uwEcRegBatteryCycnHi uwEcRegBatteryCycnLo

def rawXif1Show : Driver (Except Int String) :=
  rawWordShow uwEcRegBatteryXif1Hi uwEcRegBatteryXif1Lo

def rawXif2Show : Driver (Except Int String) :=
  rawWordShow uwEcRegBatteryXif2Hi uwEcRegBatteryXif2Lo

/-- A text is shown only if both accesses succeed. -/
theorem run_rawWordShow {σ : Type} (device : EcDevice σ)
    (hibyteAddress lobyteAddress : U16) (machine : Machine σ) :
    (device.run (rawWordShow hibyteAddress lobyteAddress) machine).1 =
      match (device.read hibyteAddress machine.2).1 with
      | .fail _ => .error (-eio)
      | .ok hi =>
          match (device.read lobyteAddress
            (device.read hibyteAddress machine.2).2).1 with
          | .fail _ => .error (-eio)
          | .ok lo => .ok (sysfsEmitNumber (wordOfBytes hi lo).toNat) := by
  simp only [rawWordShow, uniwillReadEcRamU16, run_bind, run_pure, run_ite,
    run_uniwillReadEcRam]
  cases (device.read hibyteAddress machine.2).1 with
  | fail left => rfl
  | ok hi =>
      cases (device.read lobyteAddress
        (device.read hibyteAddress machine.2).2).1 with
      | fail left => rfl
      | ok lo => rfl

end TuxedoDrivers.Uniwill
