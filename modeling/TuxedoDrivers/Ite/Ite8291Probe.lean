import TuxedoDrivers.Ite.LedRegistration

/-!
# The probe of `ite_8291`

`driver_probe_callb` with all its exits, for the keyboards with a LED per key
and for those with four zones.
-/

namespace TuxedoDrivers.Ite

open Interaction

/-- The steps that the probes of the three drivers begin with: parsing,
`start_hw` and the allocation of the driver data. -/
def startedProbe (rest : Probe Int) : Probe Int := do
  let result ← ask .hidParse
  if result ≠ 0 then
    stopHw
    return result
  else
    let result ← startHw
    if result ≠ 0 then
      return result
    else
      let driverData ← ask (.devmKzalloc .driverData)
      if driverData = false then
        return -enomem
      else
        rest

namespace Ite8291

/-! ## Zones -/

abbrev ite8291NrZones : Nat := 4

/-- `mcled_cdevs` of `struct ite8291_driver_data_zones_t`. -/
abbrev ZonesData : Type :=
  Fin ite8291NrZones → McLed

/-- What a successful `ite8291_zones_add` leaves. -/
def zonesDefault : ZonesData := fun i =>
  { brightness := 0x00
    maxBrightness := 0x32
    intensities := ⟨255, 255, 255⟩
    channel := BitVec.ofNat 32 i }

/-- The zones that are left. -/
def registerZones : List (Fin ite8291NrZones) → Probe Int
  | [] => pure 0
  | i :: rest => do
      let result ← ask (.devmLedRegister (.zone i))
      if result ≠ 0 then
        ((List.finRange ite8291NrZones).take i).forM fun k =>
          ask (.devmLedUnregister (.zone k))
        return result
      else
        registerZones rest

def ite8291ZonesAdd : Probe Int := do
  let zonesData ← ask (.devmKzalloc .deviceData)
  if zonesData = false then
    return -enomem
  else
    registerZones (List.finRange ite8291NrZones)

def ite8291ZonesWriteOn : Hid Int := do
  let _ ← ite8291WriteControl
    #v[0x1a, 0x00, 0x01, 0x04, 0x00, 0x00, 0x00, 0x01]
  return 0

def ite8291ZonesWriteState (device : Ite8291Device) (data : ZonesData) :
    Hid Int := do
  let brightness : U8 := (data 0).brightness.setWidth 8
  (List.finRange ite8291NrZones).forM fun i => do
    let scaled :=
      colorScaling device (data i).intensities.colour false 0 0
    let _ ← ite8291WriteControl
      #v[0x14, 0x00, BitVec.ofNat 8 (i + 1), scaled.red, scaled.green,
        scaled.blue, 0x00, 0x00]
  let _ ← ite8291WriteControl
    #v[0x08, 0x02, 0x01, 0x03, brightness, 0x08, 0x00, 0x00]
  return 0

/-- The brightness of all zones is that of the first. -/
def firstZoneBrightness (data : ZonesData) : U8 :=
  (data 0).brightness.setWidth 8

/-! ## The probe -/

/-- The functions in `struct ite8291_driver_data_t`. -/
structure DeviceFunctions where
  deviceHasBufferInputControl : Bool
  deviceAdd : Probe Int
  deviceWriteOn : Hid Int
  deviceWriteState : Hid Int

def hasZones (device : Ite8291Device) : Bool :=
  decide (device.product = 0xce00 ∧ device.bcdDevice = 0x0002)

/-- The state is written right after the device was added. -/
def ite8291DriverDataSetup (device : Ite8291Device) : DeviceFunctions :=
  if hasZones device = true then
    { deviceHasBufferInputControl := false
      deviceAdd := ite8291ZonesAdd
      deviceWriteOn := ite8291ZonesWriteOn
      deviceWriteState := ite8291ZonesWriteState device zonesDefault }
  else
    { deviceHasBufferInputControl := true
      deviceAdd := ite8291PerkeyAdd
      deviceWriteOn := ite8291PerkeyWriteOn
      deviceWriteState := ite8291PerkeyWriteState
        { deviceBufferInput := false
          deviceData := Ite.ite8291PerkeyAdd device } }

/-- The attribute group with `buffer_input`. -/
def createControlGroup : Probe Int := do
  let result ← ask .sysfsCreateGroup
  if result ≠ 0 then
    stopHw
    return result
  else
    return 0

/-- What follows after the device was added. -/
def finishProbe (functions : DeviceFunctions) : Probe Int := do
  let _ ← transferring functions.deviceWriteOn
  let _ ← transferring functions.deviceWriteState
  if functions.deviceHasBufferInputControl = true then
    createControlGroup
  else
    return 0

/-- A keyboard with a LED per key is transmitted as in the successful
probe. -/
theorem finishProbe_perkey {device : Ite8291Device}
    (perkey : hasZones device = false) :
    finishProbe (ite8291DriverDataSetup device) =
      transferring (Ite.driverProbeCallb device) >>= fun _ =>
        createControlGroup := by
  have setUp : ite8291DriverDataSetup device =
      { deviceHasBufferInputControl := true
        deviceAdd := ite8291PerkeyAdd
        deviceWriteOn := ite8291PerkeyWriteOn
        deviceWriteState := ite8291PerkeyWriteState
          { deviceBufferInput := false
            deviceData := Ite.ite8291PerkeyAdd device } } := by
    rw [ite8291DriverDataSetup, perkey]
    rfl
  rw [setUp, finishProbe, Ite.driverProbeCallb, transferring_bind, bind_assoc]
  apply congrArg
  funext _
  rw [transferring_bind, bind_assoc]
  rfl

/-- The probe after the allocation. -/
def addDevice (functions : DeviceFunctions) : Probe Int := do
  let result ← functions.deviceAdd
  if result ≠ 0 then
    return result
  else
    finishProbe functions

def excluded (device : Ite8291Device) : Bool :=
  dmiMatch device.dmi .productSku "STELLARIS1XI05" &&
    decide (device.product = 0x5000)

def driverProbeCallb (device : Ite8291Device) : Probe Int :=
  if excluded device = true then pure (-enodev)
  else startedProbe (addDevice (ite8291DriverDataSetup device))

end Ite8291

end TuxedoDrivers.Ite
