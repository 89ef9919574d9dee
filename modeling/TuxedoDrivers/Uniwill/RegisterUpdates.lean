import TuxedoDrivers.Uniwill.EcAccess

/-!
# Updates of EC registers

Most settings are some bits of an EC register and are changed by reading the
register, replacing the bits and writing the result.  The driver has two
forms of this: one returns when the read fails, and the other does not look
at the status of the read.  The settings of the first form are here as well.
-/

namespace TuxedoDrivers.Uniwill

open Interaction

/-! ## The two forms -/

/-- Read, return on failure, write, and on success assign to the static
variables. -/
def updateChecked (address : U16) (update : U8 → U8)
    (written : DriverState → DriverState) : Driver Int := do
  let previous ← uniwillReadEcRam address
  if previous.status ≠ 0 then
    return previous.status
  else
    let result ← uniwillWriteEcRam address (update previous.data)
    if result.status = 0 then
      setStatics written
      return result.status
    else
      return result.status

/-- Read and write, whatever the read says. -/
def updateUnchecked (address : U16) (update : U8 → U8) :
    Driver EcWrite := do
  let data ← uniwillReadEcRam address
  uniwillWriteEcRam address (update data.data)

section Updates

variable {σ : Type} (device : EcDevice σ) (machine : Machine σ)
  (address : U16) (update : U8 → U8)

/-- The first form writes only what it has read. -/
theorem trace_updateChecked (written : DriverState → DriverState) :
    device.trace (updateChecked address update written) machine =
      .read address (device.read address machine.2).1 ::
        match (device.read address machine.2).1 with
        | .fail _ => []
        | .ok data =>
            [.write address (update data)
              (device.write address (update data)
                (device.read address machine.2).2).1] := by
  rcases shape : (device.read address machine.2).1 with data | left
  · simp only [updateChecked, trace_bind, trace_uniwillReadEcRam,
      run_uniwillReadEcRam, shape, EcRead.status_ok, EcRead.data_ok, ne_eq,
      not_true_eq_false, if_false, trace_uniwillWriteEcRam, trace_ite,
      trace_setStatics, trace_pure]
    split <;> rfl
  · simp [updateChecked, shape]

/-- The first form assigns when it succeeds and not otherwise. -/
theorem statics_updateChecked (written : DriverState → DriverState) :
    (device.run (updateChecked address update written) machine).2.1 =
      if (device.run (updateChecked address update written) machine).1 = 0
      then written machine.1 else machine.1 := by
  simp only [updateChecked, run_bind, run_uniwillReadEcRam, run_ite,
    run_uniwillWriteEcRam, run_setStatics, run_pure]
  split
  · simp_all
  · split <;> simp_all

/-- The second form writes in any case. -/
theorem trace_updateUnchecked :
    device.trace (updateUnchecked address update) machine =
      [ .read address (device.read address machine.2).1,
        .write address (update (device.read address machine.2).1.data)
          (device.write address
            (update (device.read address machine.2).1.data)
            (device.read address machine.2).2).1 ] := by
  simp [updateUnchecked]

end Updates

/-! ## Settings that check the read -/

abbrev uwEcRegAcAutoBootStatus : U16 := 0x0726
abbrev uwEcRegUsbPowershareStatus : U16 := 0x0767
abbrev uwEcRegKbdFnLockStatusBit : U16 := 0x074e
abbrev uniwillFnLockMask : U8 := 0x10

def uwSetChargingPriority (chargingPriority : U8) : Driver Int :=
  let chargingPriority := (chargingPriority &&& 0x01) <<< 7
  updateChecked 0x07cc
    (fun previous => (previous &&& ~~~((1 : U8) <<< 7)) ||| chargingPriority)
    fun statics =>
      { statics with
        settings.uwChargingPrioLastWrittenValue :=
          decide (chargingPriority ≠ 0) }

/-- The value kept for a restore is the one before the shift. -/
def uwSetChargingProfile (chargingProfile : U8) : Driver Int :=
  let chargingProfile := chargingProfile &&& 0x03
  let shiftedProfile := chargingProfile <<< 4
  updateChecked 0x07a6
    (fun previous => (previous &&& ~~~((0x03 : U8) <<< 4)) ||| shiftedProfile)
    fun statics =>
      { statics with
        settings.uwChargingProfileLastWrittenValue := chargingProfile }

def uwSetAcAutoBoot (acAutoBoot : U8) : Driver Int :=
  let acAutoBoot := (acAutoBoot &&& 0x01) <<< 3
  updateChecked uwEcRegAcAutoBootStatus
    (fun previous => (previous &&& ~~~((1 : U8) <<< 3)) ||| acAutoBoot)
    fun statics =>
      { statics with
        settings.uwAcAutoBootLastWrittenValue := decide (acAutoBoot ≠ 0) }

def uwSetUsbPowershare (usbPowershare : U8) : Driver Int :=
  let usbPowershare := (usbPowershare &&& 0x01) <<< 4
  updateChecked uwEcRegUsbPowershareStatus
    (fun previous => (previous &&& ~~~((1 : U8) <<< 4)) ||| usbPowershare)
    fun statics =>
      { statics with
        settings.uwUsbPowershareLastWrittenValue :=
          decide (usbPowershare ≠ 0) }

def uniwillWmiFnLockSet (on : Int) : Driver Int :=
  updateChecked uwEcRegKbdFnLockStatusBit
    (fun data =>
      if on ≠ 0 then data ||| uniwillFnLockMask
      else data &&& ~~~uniwillFnLockMask)
    id

def uwChargingPriorityWriteState : Driver Unit := do
  let statics ← getStatics
  if statics.settings.uwChargingPrioLoaded = true then
    let _ ← uwSetChargingPriority
      (if statics.settings.uwChargingPrioLastWrittenValue then 1 else 0)
    return ()
  else
    return ()

def uwChargingProfileWriteState : Driver Unit := do
  let statics ← getStatics
  if statics.settings.uwChargingProfileLoaded = true then
    let _ ← uwSetChargingProfile
      statics.settings.uwChargingProfileLastWrittenValue
    return ()
  else
    return ()

end TuxedoDrivers.Uniwill
