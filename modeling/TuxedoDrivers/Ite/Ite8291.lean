import TuxedoDrivers.Ite.Hid
import TuxedoDrivers.Sysfs

/-!
# The per-key keyboards of `ite_8291`

The driver keeps the colours of a keyboard in the rows it transmits, three
planes of 21 cells after two bytes of padding.  A LED knows its place by its
channel.  With `buffer_input` on, changes are collected and nothing is
transmitted.
-/

namespace TuxedoDrivers.Ite

open Interaction

def ite8291KbdBrightnessMax : U32 := 0x32
abbrev ite8291LedsPerRowMax : Nat := 21
abbrev ite8291RowDataPadding : Nat := 2
abbrev ite8291NrRows : Nat := 6
abbrev ite8291RowDataLength : Nat :=
  ite8291RowDataPadding + ite8291LedsPerRowMax * 3

/-- What the driver looks at of the machine and the device. -/
structure Ite8291Device where
  dmi : Dmi
  product : U32
  bcdDevice : U16

/-! ## Colours -/

/-- The factor is applied in `int`. -/
def scaleBy (factor : Nat) (value : U8) : U8 :=
  BitVec.ofNat 8 (factor * value.toNat / 255)

def Colour.scale (colour : Colour) (red green blue : Nat) : Colour :=
  ⟨scaleBy red colour.red, scaleBy green colour.green,
    scaleBy blue colour.blue⟩

/-- `color_scaling`, where a factor of 255 stands for a component that is
left alone. -/
def colorScaling (device : Ite8291Device) (colour : Colour)
    (rowColSet : Bool) (row _col : U8) : Colour :=
  if dmiMatch device.dmi .productSku "STEPOL1XA04" ∧
      device.product = 0x600a then
    colour.scale 126 255 255
  else if dmiMatch device.dmi .productSku "STELLARIS1XI05" ∧
      device.product = 0x600a then
    let reduced := colour.scale 200 255 220
    if rowColSet = true ∧ row = 5 then reduced.scale 230 255 200
    else reduced
  else if dmiMatch device.dmi .productSku "STELLARIS1XA05" then
    colour.scale 128 255 255
  else if dmiMatch device.dmi .productSku "STELLARIS1XI05" ∧
      device.product = 0xce00 ∧ device.bcdDevice = 0x0002 then
    colour.scale 255 220 200
  else if dmiMatch device.dmi .productSku "STELLARIS17I06" ∧
      device.product = 0xce00 ∧ device.bcdDevice = 0x0002 then
    colour.scale 255 180 180
  else if dmiMatch device.dmi .productSku "STELLARIS17I06" ∧
      device.product = 0x600a then
    colour.scale 200 255 220
  else if (dmiMatch device.dmi .productSku "STELLSL15I06" ∨
        dmiMatch device.dmi .productSku "STELLARIS16I06") ∧
      device.product = 0x600b then
    -- all keys: reduce pink
    let reduced := colour.scale 155 255 140
    -- bottom row: reduce green
    let bottom := if rowColSet = true ∧ row = 0 then
      reduced.scale 279 255 282 else reduced
    -- top row: reduce violet
    if rowColSet = true ∧ row = 5 then bottom.scale 148 255 137
    else bottom
  else if (dmiMatch device.dmi .productSku "STELLARIS16I07" ∨
        dmiMatch device.dmi .productSku "STELLARIS16A07" ∨
        dmiMatch device.dmi .boardName "X6AR55xU") ∧
      device.product = 0x600b then
    colour.scale 170 255 125
  else if dmiMatch device.dmi .boardName "X5KK45xS_X5SP45xS" then
    colour.scale 180 255 255
  else if dmiMatch device.dmi .boardName "X5AR45xS" then
    colour
  else if dmiMatch device.dmi .boardName "X6KK45xU_X6SP45xU" then
    colour.scale 187 255 153
  else if dmiMatch device.dmi .boardName "XxAF5xxx" ∨
      dmiMatch device.dmi .boardName "XxAF5xxx_mLED" then
    colour
  else
    colour.scale 255 126 120

/-! ## Rows -/

/-- `row_data_t`. -/
abbrev RowData : Type :=
  Fin ite8291NrRows → Fin ite8291RowDataLength → U8

/-- `row_data[row][column] = byte`. -/
def RowData.write (rowData : RowData) (row column : Int) (byte : U8) :
    RowData :=
  fun r c =>
    if (r : Int) = row ∧ (c : Int) = column then byte else rowData r c

def rowDataSet (device : Ite8291Device) (rowData : RowData)
    (row column : Int) (colour : Colour) : Int × RowData :=
  let scaled := colorScaling device colour true (BitVec.ofInt 8 row)
    (BitVec.ofInt 8 column)
  if row < 0 ∨ row ≥ ite8291NrRows then
    (-einval, rowData)
  else if column < 0 ∨ column ≥ ite8291LedsPerRowMax then
    (-einval, rowData)
  else
    let columnIndexRed :=
      ite8291RowDataPadding + 2 * ite8291LedsPerRowMax + column
    let columnIndexGreen :=
      ite8291RowDataPadding + 1 * ite8291LedsPerRowMax + column
    let columnIndexBlue :=
      ite8291RowDataPadding + 0 * ite8291LedsPerRowMax + column
    (0, ((rowData.write row columnIndexRed scaled.red).write row
      columnIndexGreen scaled.green).write row columnIndexBlue scaled.blue)

/-! ## Transmission -/

/-- `ite8291_write_control`, for a device that is there. -/
def ite8291WriteControl (ctrlData : Vector U8 8) : Hid Int :=
  hidHwRawRequest (ctrlData.get 0) ctrlData.toList

/-- The loop of `ite8291_write_rows` over the rows that are left; `result` is
what the row before left in the variable of this name. -/
def writeRowsLoop (rowData : RowData) :
    List (Fin ite8291NrRows) → Int → Hid Int
  | [], result => pure result
  | row :: rest, _ => do
      let _ ← ite8291WriteControl
        #v[0x16, 0x00, BitVec.ofNat 8 row, 0x00, 0x00, 0x00, 0x00, 0x00]
      let result ← outputReport (List.ofFn (rowData row))
      if result < 0 then
        return result
      else
        writeRowsLoop rowData rest result

def ite8291WriteRows (rowData : RowData) (brightness : U8) : Hid Int := do
  let _ ← ite8291WriteControl
    #v[0x08, 0x02, 0x33, 0x00,
      if brightness > 0x32 then 0x32 else brightness, 0x00, 0x00, 0x00]
  let result ← writeRowsLoop rowData (List.finRange ite8291NrRows) 0
  return if result > 0 then 0 else result

/-! ## Driver data -/

/-- `struct ite8291_driver_data_perkey_t`. -/
structure PerkeyData where
  rowData : RowData
  brightness : U8
  mcledCdevs : LedArray ite8291NrRows ite8291LedsPerRowMax

/-- `struct ite8291_driver_data_t` of a per-key device. -/
structure Ite8291Data where
  deviceBufferInput : Bool
  deviceData : PerkeyData

def ite8291PerkeyWriteOn : Hid Int :=
  pure 0

def ite8291PerkeyWriteOff : Hid Int :=
  ite8291WriteControl
    #v[0x08, 0x01, 0x00, 0x00, 0x00, 0x00, 0x00, 0x00]

/-- The last reports when zones are switched off, and those that switch off a
lightbar with its number. -/
def writeOffReports (target : U8) : Hid Int := do
  let _ ← ite8291WriteControl
    #v[0x12, 0x00, 0x03, 0x00, 0x00, 0x00, 0x00, 0x00]
  let _ ← ite8291WriteControl
    #v[0x08, 0x05, 0x00, 0x00, 0x00, 0x00, 0x00, 0x00]
  let _ ← ite8291WriteControl
    #v[0x08, 0x01, target, 0x00, 0x00, 0x00, 0x00, 0x00]
  let _ ← ite8291WriteControl
    #v[0x1a, target, 0x00, 0x00, 0x00, 0x00, 0x00, 0x01]
  return 0

def ite8291ZonesWriteOff : Hid Int := do
  let _ ← ite8291WriteControl
    #v[0x09, 0x02, 0x00, 0x00, 0x00, 0x00, 0x00, 0x00]
  writeOffReports 0x00

def ite8291PerkeyWriteState (data : Ite8291Data) : Hid Int :=
  ite8291WriteRows data.deviceData.rowData data.deviceData.brightness

/-- What `leds_set_brightness_mc` does to the data of the device, for the LED
in this place of the array. -/
def PerkeyData.setBrightness (device : Ite8291Device) (data : PerkeyData)
    (led : McLed) (brightness : U32) : PerkeyData :=
  { rowData :=
      (rowDataSet device data.rowData
        (led.channel.toNat / ite8291LedsPerRowMax : Nat)
        (led.channel.toNat % ite8291LedsPerRowMax : Nat)
        led.intensities.colour).2
    brightness := brightness.setWidth 8
    mcledCdevs := data.mcledCdevs.withBrightness brightness }

def ledsSetBrightnessMc (device : Ite8291Device) (data : Ite8291Data)
    (row : Fin ite8291NrRows) (column : Fin ite8291LedsPerRowMax)
    (brightness : U32) : Hid Ite8291Data := do
  let changed : Ite8291Data :=
    { data with
      deviceData := data.deviceData.setBrightness device
        (data.deviceData.mcledCdevs row column) brightness }
  if changed.deviceBufferInput = false then
    let _ ← ite8291PerkeyWriteState changed
    return changed
  else
    return changed

/-- One LED of the array replaced. -/
def PerkeyData.replaceLed (data : PerkeyData) (row : Fin ite8291NrRows)
    (column : Fin ite8291LedsPerRowMax) (led : McLed) : PerkeyData :=
  { data with mcledCdevs := data.mcledCdevs.replace row column led }

/-- `led_set_brightness` for one of the LEDs. -/
def ledSetBrightness (device : Ite8291Device) (data : Ite8291Data)
    (row : Fin ite8291NrRows) (column : Fin ite8291LedsPerRowMax)
    (value : U32) : Hid Ite8291Data :=
  let led := (data.deviceData.mcledCdevs row column).setBrightness value
  ledsSetBrightnessMc device
    { data with deviceData := data.deviceData.replaceLed row column led }
    row column led.brightness

/-- A write to `multi_intensity`: the class stores the intensities and sets
the brightness the LED has. -/
def multiIntensityStore (device : Ite8291Device) (data : Ite8291Data)
    (row : Fin ite8291NrRows) (column : Fin ite8291LedsPerRowMax)
    (intensities : Intensities) : Hid Ite8291Data :=
  let led : McLed :=
    { data.deviceData.mcledCdevs row column with intensities }
  ledSetBrightness device
    { data with deviceData := data.deviceData.replaceLed row column led }
    row column led.brightness

/-- `buffer_input_store`, with what it returns. -/
def bufferInputStore (buf : String) (data : Ite8291Data) :
    Hid (Int × Ite8291Data) :=
  match kstrtobool buf with
  | .error _ => pure (-einval, data)
  | .ok deviceBufferInput => do
      let changed := { data with deviceBufferInput }
      if deviceBufferInput = false then
        let _ ← ite8291PerkeyWriteState changed
        return (buf.utf8ByteSize, changed)
      else
        return (buf.utf8ByteSize, changed)

/-! ## Probe and power management -/

/-- The colour before any change. -/
def ite8291KbColorDefault : Colour :=
  ⟨0xff, 0xff, 0xff⟩

/-- The default colour in all cells of the rows, which start with zeros. -/
def defaultRowData (device : Ite8291Device) : RowData :=
  (List.finRange ite8291NrRows).foldl
    (fun rowData i =>
      (List.finRange ite8291LedsPerRowMax).foldl
        (fun rowData j =>
          (rowDataSet device rowData (i : Nat) (j : Nat)
            ite8291KbColorDefault).2)
        rowData)
    (fun _ _ => 0)

/-- A LED as `register_leds` sets it up. -/
def registeredLed (i : Fin ite8291NrRows)
    (j : Fin ite8291LedsPerRowMax) : McLed :=
  { brightness := 0x00
    maxBrightness := ite8291KbdBrightnessMax
    intensities := ite8291KbColorDefault.intensities
    channel := BitVec.ofNat 32 (ite8291LedsPerRowMax * i + j) }

/-- What a successful `ite8291_perkey_add` leaves. -/
def ite8291PerkeyAdd (device : Ite8291Device) : PerkeyData :=
  { rowData := defaultRowData device
    brightness := 0x00
    mcledCdevs := registeredLed }

/-- The end of a successful `driver_probe_callb`. -/
def driverProbeCallb (device : Ite8291Device) : Hid Ite8291Data := do
  let data : Ite8291Data :=
    { deviceBufferInput := false, deviceData := ite8291PerkeyAdd device }
  let _ ← ite8291PerkeyWriteOn
  let _ ← ite8291PerkeyWriteState data
  return data

def driverSuspendCallb : Hid Int := do
  let _ ← ite8291PerkeyWriteOff
  return 0

/-- `driver_resume_callb`, and `driver_reset_resume_callb` which is the
same. -/
def driverResumeCallb (data : Ite8291Data) : Hid Int := do
  let _ ← ite8291PerkeyWriteOn
  ite8291PerkeyWriteState data

end TuxedoDrivers.Ite
