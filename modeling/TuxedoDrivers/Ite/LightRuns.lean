import TuxedoDrivers.Ite.LightDrivers

/-!
# The keyboards with zones and the lightbars

Three drivers of ITE controllers that write everything they keep.  The one of
`ite_8291` has an LED for each of four zones and one brightness for all; the
one of `ite_8291_lb` has one LED and commands that differ with the product;
the one of `ite_8297` has an LED for each component.
-/

namespace TuxedoDrivers.Ite

open Interaction

/-! ## Zones of `ite_8291` -/

namespace Ite8291

def zonesWithBrightness (data : ZonesData) (brightness : U32) : ZonesData :=
  fun zone => { data zone with brightness }

/-- All zones get the brightness of one. -/
def ledsZonesSetBrightnessMc (device : Ite8291Device) (data : ZonesData)
    (brightness : U32) : Hid ZonesData := do
  let data := zonesWithBrightness data brightness
  let _ ← ite8291ZonesWriteState device data
  return data

/-- What is stored to the LED of a zone. -/
inductive ZoneStore where
  | brightness (zone : Fin ite8291NrZones) (value : U32)
  | multiIntensity (zone : Fin ite8291NrZones) (intensities : Intensities)
  deriving DecidableEq, Repr

/-- The LED that the LED class has for the store. -/
def ZoneStore.led (data : ZonesData) : ZoneStore → McLed
  | .brightness zone value => (data zone).setBrightness value
  | .multiIntensity zone intensities =>
      { data zone with intensities }.setBrightness (data zone).brightness

def ZoneStore.zone : ZoneStore → Fin ite8291NrZones
  | .brightness zone _ => zone
  | .multiIntensity zone _ => zone

def zoneStore (device : Ite8291Device) (store : ZoneStore)
    (data : ZonesData) : Hid ZonesData :=
  ledsZonesSetBrightnessMc device
    (Function.update data store.zone (store.led data))
    (store.led data).brightness

/-- `driver_suspend_callb` of a keyboard with zones. -/
def zonesSuspend : Hid Int := do
  let _ ← ite8291ZonesWriteOff
  return 0

/-- `driver_resume_callb` and `driver_reset_resume_callb` of a keyboard with
zones. -/
def zonesResume (device : Ite8291Device) (data : ZonesData) : Hid Int := do
  let _ ← ite8291ZonesWriteOn
  ite8291ZonesWriteState device data

/-- The color of one zone. -/
def zoneReport (device : Ite8291Device) (data : ZonesData)
    (zone : Fin ite8291NrZones) : List U8 :=
  let scaled := colorScaling device (data zone).intensities.colour false 0 0
  [0x14, 0x00, BitVec.ofNat 8 (zone + 1), scaled.red, scaled.green,
    scaled.blue, 0x00, 0x00]

def zonesReports (device : Ite8291Device) (data : ZonesData) :
    List (List U8) :=
  (List.finRange ite8291NrZones).map (zoneReport device data) ++
    [[0x08, 0x02, 0x01, 0x03, firstZoneBrightness data, 0x08, 0x00, 0x00]]

section Zones

variable {σ : Type} (transport : HidTransport σ) (state : σ)

theorem transfers_ite8291WriteControl (ctrlData : Vector U8 8) :
    transfers transport state (ite8291WriteControl ctrlData) =
      [featureReport ctrlData.toList] := by
  have first : ctrlData.get 0 = ctrlData.toList.getD 0 0 := by
    simp [Vector.get]
  rw [ite8291WriteControl, transfers_hidHwRawRequest, first, featureReport]

theorem transfers_ite8291ZonesWriteState (device : Ite8291Device)
    (data : ZonesData) :
    transfers transport state (ite8291ZonesWriteState device data) =
      (zonesReports device data).map featureReport := by
  have zone (item : Fin ite8291NrZones) (reached : σ) :
      transfers transport reached (do
        let scaled :=
          colorScaling device (data item).intensities.colour false 0 0
        let _ ← ite8291WriteControl
          #v[0x14, 0x00, BitVec.ofNat 8 (item + 1), scaled.red,
            scaled.green, scaled.blue, 0x00, 0x00]) =
        [featureReport (zoneReport device data item)] := by
    rw [transfers_bind, transfers_ite8291WriteControl]
    rfl
  unfold ite8291ZonesWriteState
  rw [transfers_bind, transfers_forM transport state zone, transfers_bind,
    transfers_ite8291WriteControl, zonesReports, List.map_append,
    List.map_map]
  rfl

theorem run_zoneStore (device : Ite8291Device) (store : ZoneStore)
    (data : ZonesData) :
    ((zoneStore device store data).run transport state).1 =
      zonesWithBrightness
        (Function.update data store.zone (store.led data))
        (store.led data).brightness := by
  rw [zoneStore, ledsZonesSetBrightnessMc, Program.run_bind,
    Program.run_pure]

theorem transfers_zoneStore (device : Ite8291Device) (store : ZoneStore)
    (data : ZonesData) :
    transfers transport state (zoneStore device store data) =
      (zonesReports device
        (zonesWithBrightness
          (Function.update data store.zone (store.led data))
          (store.led data).brightness)).map featureReport := by
  rw [zoneStore, ledsZonesSetBrightnessMc, transfers_bind,
    transfers_ite8291ZonesWriteState, transfers_pure, List.append_nil]

end Zones

/-- The driver of a keyboard with zones. -/
def zonesDriver (device : Ite8291Device) : LightDriver where
  Kept := ZonesData
  Store := ZoneStore
  probed := zonesDefault
  store := zoneStore device
  suspend := zonesSuspend
  resume := zonesResume device
  stored store data :=
    zonesWithBrightness (Function.update data store.zone (store.led data))
      (store.led data).brightness
  reports := zonesReports device
  onReports := [[0x1a, 0x00, 0x01, 0x04, 0x00, 0x00, 0x00, 0x01]]
  offReports :=
    [ [0x09, 0x02, 0x00, 0x00, 0x00, 0x00, 0x00, 0x00],
      [0x12, 0x00, 0x03, 0x00, 0x00, 0x00, 0x00, 0x00],
      [0x08, 0x05, 0x00, 0x00, 0x00, 0x00, 0x00, 0x00],
      [0x08, 0x01, 0x00, 0x00, 0x00, 0x00, 0x00, 0x00],
      [0x1a, 0x00, 0x00, 0x00, 0x00, 0x00, 0x00, 0x01] ]
  distinct data := by
    change ([[0x1a], [0x14, 1], [0x14, 2], [0x14, 3], [0x14, 4], [0x08]] :
      List (List U8)).Nodup
    decide
  run_store transport store data state :=
    run_zoneStore transport state device store data
  transfers_store transport store data state :=
    transfers_zoneStore transport state device store data
  transfers_suspend transport state := by
    simp only [zonesSuspend, ite8291ZonesWriteOff, writeOffReports,
      transfers_bind, transfers_ite8291WriteControl, transfers_pure]
    rfl
  transfers_resume transport data state := by
    simp only [zonesResume, ite8291ZonesWriteOn, transfers_bind,
      transfers_ite8291WriteControl, transfers_pure,
      transfers_ite8291ZonesWriteState]
    rfl

end Ite8291

/-! ## The lightbars of `ite_8291_lb` -/

namespace Ite8291Lb

def ite8291WriteOff (device : LightbarDevice) : Hid Int :=
  if device.product = 0x6010 then do
    -- turned black first as it does not turn off reliably
    let _ ← ite8291WriteLightbarMono device ⟨0, 0, 0⟩ 0
    writeOffReports 0x00
  else if device.product = 0x7000 then
    writeOffReports 0x01
  else if device.product = 0x7001 then
    writeOffReports 0x02
  else
    pure (-enosys)

def driverSuspendCallb (device : LightbarDevice) : Hid Int := do
  let _ ← ite8291WriteOff device
  return 0

/-- `driver_resume_callb`, and `driver_reset_resume_callb` which is the
same. -/
def driverResumeCallb (device : LightbarDevice) (led : McLed) :
    Hid Int := do
  let _ ← ite8291WriteOn device
  ite8291WriteState device led

/-- What is stored to the LED. -/
inductive LightbarStore where
  | brightness (value : U32)
  | multiIntensity (intensities : Intensities)
  deriving DecidableEq, Repr

/-- The LED that the LED class has for the store. -/
def LightbarStore.led (led : McLed) : LightbarStore → McLed
  | .brightness value => led.setBrightness value
  | .multiIntensity intensities =>
      { led with intensities }.setBrightness led.brightness

/-- The LED device as it can be. -/
structure Lightbar where
  led : McLed
  max : led.maxBrightness = 0x64
  inRange : led.brightness.toNat ≤ 0x64

theorem setBrightness_inRange {led : McLed} (max : led.maxBrightness = 0x64)
    (value : U32) : (led.setBrightness value).brightness.toNat ≤ 0x64 := by
  change (clampTo led.maxBrightness value).toNat ≤ 0x64
  rw [max, clampTo]
  by_cases small : value < 0x64
  · have below : value.toNat < 0x64 := small
    rw [if_pos small]
    omega
  · rw [if_neg small]
    decide

def Lightbar.stored (lightbar : Lightbar) (store : LightbarStore) :
    Lightbar where
  led := store.led lightbar.led
  max := by
    cases store <;> exact lightbar.max
  inRange := by
    cases store with
    | brightness value => exact setBrightness_inRange lightbar.max value
    | multiIntensity intensities =>
        exact setBrightness_inRange lightbar.max _

/-- `leds_set_brightness_mc_lightbar`, called by the LED class. -/
def lightbarStore (device : LightbarDevice) (store : LightbarStore)
    (lightbar : Lightbar) : Hid Lightbar := do
  let lightbar := lightbar.stored store
  let _ ← ite8291WriteState device lightbar.led
  return lightbar

/-- The bytes in which the reports of the products differ. -/
structure Commands where
  zone : U8
  command : U8
  last : U8
  target : U8

def commands (device : LightbarDevice) : Commands :=
  if device.product = 0x6010 then ⟨0x00, 0x02, 0x08, 0x00⟩
  else if device.product = 0x7000 then ⟨0x01, 0x21, 0x01, 0x01⟩
  else ⟨0x00, 0x22, 0x01, 0x02⟩

/-- A product of `ite8291_device_table`. -/
def Supported (device : LightbarDevice) : Prop :=
  device.product = 0x6010 ∨ device.product = 0x7000 ∨
    device.product = 0x7001

instance (device : LightbarDevice) : Decidable (Supported device) :=
  inferInstanceAs (Decidable (_ ∨ _))

def monoReports (device : LightbarDevice) (colour : Colour)
    (brightness : U8) : List (List U8) :=
  let scaled := colorScaling device colour
  [ [0x14, (commands device).zone, 0x01, scaled.red, scaled.green,
      scaled.blue, 0x00, 0x00],
    [0x08, (commands device).command, 0x01, 0x01, brightness,
      (commands device).last, 0x00, 0x00] ]

def offReports (device : LightbarDevice) : List (List U8) :=
  (if device.product = 0x6010 then monoReports device ⟨0, 0, 0⟩ 0 else []) ++
    [ [0x12, 0x00, 0x03, 0x00, 0x00, 0x00, 0x00, 0x00],
      [0x08, 0x05, 0x00, 0x00, 0x00, 0x00, 0x00, 0x00],
      [0x08, 0x01, (commands device).target, 0x00, 0x00, 0x00, 0x00, 0x00],
      [0x1a, (commands device).target, 0x00, 0x00, 0x00, 0x00, 0x00, 0x01] ]

theorem Supported.cases {device : LightbarDevice}
    (supported : Supported device) :
    (device.product = 0x6010 ∧
        commands device = ⟨0x00, 0x02, 0x08, 0x00⟩) ∨
      (device.product ≠ 0x6010 ∧ device.product = 0x7000 ∧
        commands device = ⟨0x01, 0x21, 0x01, 0x01⟩) ∨
      (device.product ≠ 0x6010 ∧ device.product ≠ 0x7000 ∧
        device.product = 0x7001 ∧
        commands device = ⟨0x00, 0x22, 0x01, 0x02⟩) := by
  unfold commands
  rcases supported with is6010 | is7000 | is7001
  · exact Or.inl ⟨is6010, if_pos is6010⟩
  · have not6010 : device.product ≠ 0x6010 := by
      rw [is7000]
      decide
    refine Or.inr (Or.inl ⟨not6010, is7000, ?_⟩)
    rw [if_neg not6010, if_pos is7000]
  · have not6010 : device.product ≠ 0x6010 := by
      rw [is7001]
      decide
    have not7000 : device.product ≠ 0x7000 := by
      rw [is7001]
      decide
    refine Or.inr (Or.inr ⟨not6010, not7000, is7001, ?_⟩)
    rw [if_neg not6010, if_neg not7000]

section Lightbars

variable {device : LightbarDevice} (supported : Supported device) {σ : Type}
  (transport : HidTransport σ) (state : σ)

include supported

theorem transfers_ite8291WriteLightbarMono (colour : Colour)
    {brightness : U8} (inRange : brightness.toNat ≤ 0x64) :
    transfers transport state
        (ite8291WriteLightbarMono device colour brightness) =
      (monoReports device colour brightness).map featureReport := by
  have notAbove : ¬ brightness > 0x64 := by
    rw [gt_iff_lt, BitVec.not_lt]
    exact inRange
  have written (scaled : Colour) (zone command last : U8) :
      transfers transport state
          (writeMonoReports scaled zone command last brightness) =
        [ featureReport
            [0x14, zone, 0x01, scaled.red, scaled.green, scaled.blue, 0x00,
              0x00],
          featureReport
            [0x08, command, 0x01, 0x01, brightness, last, 0x00, 0x00] ] := by
    rw [writeMonoReports, transfers_bind, transfers_bind,
      Ite8291.transfers_ite8291WriteControl,
      Ite8291.transfers_ite8291WriteControl]
    rfl
  unfold ite8291WriteLightbarMono monoReports
  rw [if_neg notAbove]
  rcases supported.cases with ⟨is6010, isCommands⟩ |
    ⟨not6010, is7000, isCommands⟩ | ⟨not6010, not7000, is7001, isCommands⟩
  · rw [if_pos is6010, isCommands, written]
    rfl
  · rw [if_neg not6010, if_pos is7000, isCommands, written]
    rfl
  · rw [if_neg not6010, if_neg not7000, if_pos is7001, isCommands, written]
    rfl

theorem transfers_ite8291WriteOn :
    transfers transport state (ite8291WriteOn device) =
      [featureReport
        [0x1a, (commands device).target, 0x01, 0x04, 0x00, 0x00, 0x00,
          0x01]] := by
  have written (target : U8) :
      transfers transport state
          (ite8291WriteControl (onReport target) >>= fun _ =>
            (pure 0 : Hid Int)) =
        [featureReport
          [0x1a, target, 0x01, 0x04, 0x00, 0x00, 0x00, 0x01]] := by
    rw [transfers_bind, Ite8291.transfers_ite8291WriteControl]
    rfl
  unfold ite8291WriteOn
  rcases supported.cases with ⟨is6010, isCommands⟩ |
    ⟨not6010, is7000, isCommands⟩ | ⟨not6010, not7000, is7001, isCommands⟩
  · rw [if_pos is6010, isCommands, written]
  · rw [if_neg not6010, if_pos is7000, isCommands, written]
  · rw [if_neg not6010, if_neg not7000, if_pos is7001, isCommands, written]

omit supported in
theorem transfers_writeOffReports (target : U8) :
    transfers transport state (writeOffReports target) =
      [ featureReport [0x12, 0x00, 0x03, 0x00, 0x00, 0x00, 0x00, 0x00],
        featureReport [0x08, 0x05, 0x00, 0x00, 0x00, 0x00, 0x00, 0x00],
        featureReport [0x08, 0x01, target, 0x00, 0x00, 0x00, 0x00, 0x00],
        featureReport
          [0x1a, target, 0x00, 0x00, 0x00, 0x00, 0x00, 0x01] ] := by
  simp only [writeOffReports, transfers_bind,
    Ite8291.transfers_ite8291WriteControl, transfers_pure]
  rfl

theorem transfers_ite8291WriteOff :
    transfers transport state (ite8291WriteOff device) =
      (offReports device).map featureReport := by
  have black := transfers_ite8291WriteLightbarMono supported transport state
    ⟨0, 0, 0⟩ (show (0 : U8).toNat ≤ 0x64 by decide)
  unfold ite8291WriteOff offReports
  rcases supported.cases with ⟨is6010, isCommands⟩ |
    ⟨not6010, is7000, isCommands⟩ | ⟨not6010, not7000, is7001, isCommands⟩
  · rw [if_pos is6010, if_pos is6010, transfers_bind, black,
      transfers_writeOffReports, isCommands, List.map_append]
    rfl
  · rw [if_neg not6010, if_pos is7000, if_neg not6010,
      transfers_writeOffReports, isCommands]
    rfl
  · rw [if_neg not6010, if_neg not7000, if_pos is7001, if_neg not6010,
      transfers_writeOffReports, isCommands]
    rfl

theorem transfers_ite8291WriteState (lightbar : Lightbar) :
    transfers transport state (ite8291WriteState device lightbar.led) =
      (monoReports device lightbar.led.intensities.colour
        (lightbar.led.brightness.setWidth 8)).map featureReport := by
  apply transfers_ite8291WriteLightbarMono supported
  have inRange := lightbar.inRange
  rw [BitVec.toNat_setWidth]
  omega

end Lightbars

/-- The driver of a lightbar. -/
def lightbarDriver (device : LightbarDevice) (supported : Supported device) :
    LightDriver where
  Kept := Lightbar
  Store := LightbarStore
  probed := ⟨lightbarLed, rfl, by decide⟩
  store := lightbarStore device
  suspend := driverSuspendCallb device
  resume lightbar := driverResumeCallb device lightbar.led
  stored store lightbar := lightbar.stored store
  reports lightbar :=
    monoReports device lightbar.led.intensities.colour
      (lightbar.led.brightness.setWidth 8)
  onReports :=
    [[0x1a, (commands device).target, 0x01, 0x04, 0x00, 0x00, 0x00, 0x01]]
  offReports := offReports device
  distinct lightbar := by
    change ([[0x1a], [0x14, 1], [0x08]] : List (List U8)).Nodup
    decide
  run_store transport store lightbar state := by
    rw [lightbarStore, Program.run_bind, Program.run_pure]
  transfers_store transport store lightbar state := by
    rw [lightbarStore, transfers_bind, transfers_pure, List.append_nil,
      transfers_ite8291WriteState supported]
  transfers_suspend transport state := by
    rw [driverSuspendCallb, transfers_bind, transfers_pure, List.append_nil,
      transfers_ite8291WriteOff supported]
  transfers_resume transport lightbar state := by
    rw [driverResumeCallb, transfers_bind,
      transfers_ite8291WriteOn supported,
      transfers_ite8291WriteState supported, List.map_append]
    rfl

end Ite8291Lb

/-! ## The lightbar of `ite_8297` -/

namespace Ite8297

/-- `KBUILD_MODNAME` with the number of the component. -/
def ledNameRgbRed : String := "ite_8297:1"
def ledNameRgbGreen : String := "ite_8297:2"
def ledNameRgbBlue : String := "ite_8297:3"

def lightbarSetBlocking (name : String) (brightness : U32)
    (currentColor : Colour) : Hid Colour := do
  let ledRed := strstr name ledNameRgbRed
  let ledGreen := strstr name ledNameRgbGreen
  let ledBlue := strstr name ledNameRgbBlue
  let currentColor : Colour :=
    if ledRed = true then
      { currentColor with red := brightness.setWidth 8 }
    else if ledGreen = true then
      { currentColor with green := brightness.setWidth 8 }
    else if ledBlue = true then
      { currentColor with blue := brightness.setWidth 8 }
    else
      currentColor
  let _ ← ite8297WriteState currentColor
  return currentColor

def lightbarGet (name : String) (currentColor : Colour) : U32 :=
  if strstr name ledNameRgbRed = true then currentColor.red.setWidth 32
  else if strstr name ledNameRgbGreen = true then
    currentColor.green.setWidth 32
  else if strstr name ledNameRgbBlue = true then
    currentColor.blue.setWidth 32
  else 0

inductive ColourLed where
  | red
  | green
  | blue
  deriving DecidableEq, Repr

def ColourLed.name : ColourLed → String
  | .red => ledNameRgbRed
  | .green => ledNameRgbGreen
  | .blue => ledNameRgbBlue

/-- A brightness for one of the LEDs. -/
structure ColourStore where
  led : ColourLed
  value : U32
  deriving DecidableEq, Repr

abbrev ledMaxBrightness : U32 := 0xff

def colourStore (store : ColourStore) (currentColor : Colour) : Hid Colour :=
  lightbarSetBlocking store.led.name (clampTo ledMaxBrightness store.value)
    currentColor

def driverSuspendCallb : Hid Int :=
  pure 0

def driverResumeCallb (currentColor : Colour) : Hid Int :=
  ite8297WriteState currentColor

/-- Every LED is found by its own name only. -/
theorem strstr_name (led other : ColourLed) :
    strstr led.name other.name = decide (led = other) := by
  cases led <;> cases other <;> decide +kernel

def ColourStore.stored (store : ColourStore) (currentColor : Colour) :
    Colour :=
  let component : U8 := (clampTo ledMaxBrightness store.value).setWidth 8
  match store.led with
  | .red => { currentColor with red := component }
  | .green => { currentColor with green := component }
  | .blue => { currentColor with blue := component }

theorem colourStore_eq (store : ColourStore) (currentColor : Colour) :
    colourStore store currentColor = (do
      let _ ← ite8297WriteState (store.stored currentColor)
      return store.stored currentColor) := by
  rcases store with ⟨led, value⟩
  have isRed := strstr_name led .red
  have isGreen := strstr_name led .green
  have isBlue := strstr_name led .blue
  change strstr led.name ledNameRgbRed = _ at isRed
  change strstr led.name ledNameRgbGreen = _ at isGreen
  change strstr led.name ledNameRgbBlue = _ at isBlue
  unfold colourStore lightbarSetBlocking
  rw [isRed, isGreen, isBlue]
  cases led <;> rfl

def ColourLed.component (currentColor : Colour) : ColourLed → U8
  | .red => currentColor.red
  | .green => currentColor.green
  | .blue => currentColor.blue

/-- An LED reads its component of what is kept. -/
theorem lightbarGet_eq (led : ColourLed) (currentColor : Colour) :
    lightbarGet led.name currentColor =
      (led.component currentColor).setWidth 32 := by
  have isRed := strstr_name led .red
  have isGreen := strstr_name led .green
  have isBlue := strstr_name led .blue
  change strstr led.name ledNameRgbRed = _ at isRed
  change strstr led.name ledNameRgbGreen = _ at isGreen
  change strstr led.name ledNameRgbBlue = _ at isBlue
  unfold lightbarGet
  rw [isRed, isGreen, isBlue]
  cases led <;> rfl

/-- The report of a color. -/
def colourReport (currentColor : Colour) : List U8 :=
  [0xcc, 0xb0, 0x01, 0x01, currentColor.red, currentColor.green,
    currentColor.blue] ++ List.replicate 57 0x00

theorem transfers_ite8297WriteState {σ : Type} (transport : HidTransport σ)
    (currentColor : Colour) (state : σ) :
    transfers transport state (ite8297WriteState currentColor) =
      [colourReport currentColor].map featureReport :=
  rfl

/-- The driver of the lightbar. -/
def ite8297Driver : LightDriver where
  Kept := Colour
  Store := ColourStore
  probed := defaultColor
  store := colourStore
  suspend := driverSuspendCallb
  resume := driverResumeCallb
  stored store currentColor := store.stored currentColor
  reports currentColor := [colourReport currentColor]
  onReports := []
  offReports := []
  distinct currentColor := List.nodup_singleton _
  run_store transport store currentColor state := by
    rw [colourStore_eq, Program.run_bind, Program.run_pure]
  transfers_store transport store currentColor state := by
    rw [colourStore_eq, transfers_bind, transfers_pure, List.append_nil,
      transfers_ite8297WriteState]
  transfers_suspend transport state := rfl
  transfers_resume transport currentColor state :=
    transfers_ite8297WriteState transport currentColor state

end Ite8297

/-! ## All three -/

/-- The devices that are written as a whole. -/
inductive LightController where
  | zones (device : Ite8291Device)
  | lightbar (device : Ite8291Lb.LightbarDevice)
      (supported : Ite8291Lb.Supported device)
  | ite8297

def LightController.driver : LightController → LightDriver
  | .zones device => Ite8291.zonesDriver device
  | .lightbar device supported => Ite8291Lb.lightbarDriver device supported
  | .ite8297 => Ite8297.ite8297Driver

/-- Whatever was stored, slept and failed since the probe: a device whose last
step was a store or a resume and was taken has been told everything that the
driver keeps, which is what was stored.  The zones of `ite_8291` and
`ite_8291_lb` are also told to be on by a resume, and to be off by a
suspend. -/
theorem lights_recover (controller : LightController) {σ : Type}
    {transport : HidTransport σ} {told : σ → Told}
    (remembers : Remembers transport told)
    (steps : List controller.driver.Step) (item : controller.driver.Step)
    (state : σ)
    (taken :
      let before :=
        runSteps (controller.driver.step transport) steps
          (controller.driver.probed, state)
      AllTaken transport (controller.driver.program item before.1)
        before.2) :
    let kept :=
      runSteps controller.driver.keep (steps ++ [item])
        controller.driver.probed
    let after :=
      runSteps (controller.driver.step transport) (steps ++ [item])
        (controller.driver.probed, state)
    after.1 = kept ∧
      ∀ buf ∈ controller.driver.shownAfter kept item,
        told after.2 (reportKey buf) = some buf :=
  LightDriver.recovers remembers steps item state taken

/-- A device that refuses some transfers and then takes all. -/
def settlingTransport : HidTransport (Nat × Told)
  | _, (refusals + 1, told) => (-eio, (refusals, told))
  | .setFeatureReport _ buf, (0, told) => (0, (0, told.tell buf))
  | .outputReport _, (0, told) => (0, (0, told))

theorem settlingTransport_remembers :
    Remembers settlingTransport Prod.snd := by
  rintro buf ⟨refusals, told⟩ taken
  cases refusals with
  | zero => rfl
  | succ refusals =>
      have refused : ¬ 0 ≤ -eio := by decide
      exact absurd taken refused

theorem allTaken_settled {α : Type} (program : Hid α) (told : Told) :
    AllTaken settlingTransport program (0, told) := by
  induction program generalizing told with
  | done value =>
      intro event member
      cases member
  | ask request next inductionHypothesis =>
      intro event member
      cases request with
      | setFeatureReport number buf =>
          rcases List.mem_cons.mp member with rfl | later
          · exact le_refl 0
          · exact inductionHypothesis 0 _ event later
      | outputReport buf =>
          rcases List.mem_cons.mp member with rfl | later
          · exact le_refl 0
          · exact inductionHypothesis 0 _ event later

/-- A keyboard without quirks that is told a color in vain; the next store,
to another zone, makes up for it. -/
theorem lights_recover_zones :
    let device : Ite8291Device :=
      { dmi := fun field =>
          if field = .boardName then some "X5AR45xS" else none
        product := 0xce00
        bcdDevice := 0x0002 }
    let driver := Ite8291.zonesDriver device
    let first : driver.Step := .store (.multiIntensity 2 ⟨0x1ff, 0, 7⟩)
    let second : driver.Step := .store (.brightness 0 0x40)
    let told :=
      (runSteps (driver.step settlingTransport) [first, second]
        (driver.probed, (5, fun _ => none))).2.2
    told [0x14, 3] = some [0x14, 0x00, 0x03, 0xff, 0x00, 0x07, 0x00, 0x00] ∧
      told [0x08] =
        some [0x08, 0x02, 0x01, 0x03, 0x32, 0x08, 0x00, 0x00] := by
  intro device driver first second told
  have recovered :=
    (lights_recover (.zones device) settlingTransport_remembers [first] second
      (5, fun _ => none) (allTaken_settled _ _)).2
  exact
    ⟨recovered [0x14, 0x00, 0x03, 0xff, 0x00, 0x07, 0x00, 0x00]
        (by decide +kernel),
      recovered [0x08, 0x02, 0x01, 0x03, 0x32, 0x08, 0x00, 0x00]
        (by decide +kernel)⟩

end TuxedoDrivers.Ite
