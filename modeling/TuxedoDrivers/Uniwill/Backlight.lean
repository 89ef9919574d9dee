import TuxedoDrivers.Uniwill.RegisterUpdates

/-!
# Keyboard backlight and lightbar

The functions of `uniwill_leds.h` that set the keyboard backlight, and the
functions of `uniwill_keyboard.h` that switch it and the lightbar animation.
-/

namespace TuxedoDrivers.Uniwill

open Interaction

abbrev uwEcRegKbdBlStatus : U16 := 0x078c
abbrev uwEcRegKbdBlStatusSubcmdReset : U8 := 0x10
abbrev uwEcRegKbdBlRgbBlueBrightnessImmediate : U16 := 0x1808
abbrev uwEcRegKbdBlRgbMode : U16 := 0x0767
abbrev uwEcRegKbdBlRgbModeBitApplyColor : U8 := 0x20
abbrev uwEcRegKbdBlRgbRedBrightness : U16 := 0x0769
abbrev uwEcRegKbdBlRgbGreenBrightness : U16 := 0x076a
abbrev uwEcRegKbdBlRgbBlueBrightness : U16 := 0x076b
abbrev uwEcRegBareboneId : U16 := 0x0740
abbrev uwEcRegFeatures1 : U16 := 0x0766
abbrev uwEcRegFeatures1Bit1ZoneRgbKb : U8 := 0x04
abbrev uwEcRegFeatures1BitFixedColor5Enable : U8 := 0x20

/-! ## Switches -/

def uniwillWriteKbdBlEnable (enable : U8) : Driver Unit := do
  let enable := enable &&& 0x01
  let _ ← updateUnchecked uwEcRegKbdBlStatus fun backlightData =>
    (backlightData &&& ~~~((1 : U8) <<< 1)) |||
      (if enable = 0 then (1 : U8) <<< 1 else 0)
  return ()

def uniwillWriteLightbarAnimation (animationStatus : Bool) :
    Driver Unit := do
  let _ ← updateUnchecked 0x0748 fun value =>
    if animationStatus = true then value ||| 0x80 else value &&& ~~~0x80
  return ()

/-! ## Brightness and colour -/

/-- The lower bits are kept, the upper three encode the brightness, and
bit 4 applies it. -/
def kbdBlBrightnessByte (brightness data : U8) : U8 :=
  (data &&& 0x0f) ||| (brightness <<< 5) ||| uwEcRegKbdBlStatusSubcmdReset

def uniwillWriteKbdBlBrightness (brightness : U8) : Driver Int :=
  updateChecked uwEcRegKbdBlStatus (kbdBlBrightnessByte brightness) id

/-- The failures of the workaround are only logged. -/
def uniwillWriteKbdBlBrightnessWhiteWorkaround (brightness : U8) :
    Driver Int := do
  let immediate ← uniwillReadEcRam uwEcRegKbdBlRgbBlueBrightnessImmediate
  if immediate.data = 0 ∧ brightness ≠ 0 then
    let _ ← uniwillWriteEcRam uwEcRegKbdBlRgbBlueBrightnessImmediate 0x01
    uniwillWriteKbdBlBrightness brightness
  else
    uniwillWriteKbdBlBrightness brightness

/-- Converts the range 0-255 to the range 0-50. -/
def tfConvertRgbRange (input : U8) : U8 :=
  BitVec.ofNat 8 (input.toNat * 200 / (255 * 4))

def uniwillWriteKbdBlColor (red green blue : U8) : Driver Int := do
  let result ← uniwillWriteEcRam uwEcRegKbdBlRgbRedBrightness
    (tfConvertRgbRange red)
  if result.status ≠ 0 then
    return result.status
  else
    let result ← uniwillWriteEcRam uwEcRegKbdBlRgbGreenBrightness
      (tfConvertRgbRange green)
    if result.status ≠ 0 then
      return result.status
    else
      let result ← uniwillWriteEcRam uwEcRegKbdBlRgbBlueBrightness
        (tfConvertRgbRange blue)
      if result.status ≠ 0 then
        return result.status
      else
        updateChecked uwEcRegKbdBlRgbMode
          (fun data => data ||| uwEcRegKbdBlRgbModeBitApplyColor) id

/-- `uniwill_leds_set_brightness_mc`, for the intensities that the LED class
has stored.  Black is a special case: the EC takes it for its defaults. -/
def uniwillLedsSetBrightnessMc (brightness : U32) : Driver Unit := do
  let statics ← getStatics
  if statics.leds.subledRed = 0 ∧ statics.leds.subledGreen = 0 ∧
      statics.leds.subledBlue = 0 then
    let result ← uniwillWriteKbdBlBrightness 0
    if result ≠ 0 then
      return ()
    else
      setStatics fun statics =>
        { statics with leds.mcledCdevBrightness := brightness }
  else
    let result ← uniwillWriteKbdBlColor
      (statics.leds.subledRed.setWidth 8)
      (statics.leds.subledGreen.setWidth 8)
      (statics.leds.subledBlue.setWidth 8)
    if result ≠ 0 then
      return ()
    else
      let result ← uniwillWriteKbdBlBrightness (brightness.setWidth 8)
      if result ≠ 0 then
        return ()
      else
        setStatics fun statics =>
          { statics with leds.mcledCdevBrightness := brightness }

/-- `uniwill_leds_restore_state_extern`; failures are only logged. -/
def uniwillLedsRestoreStateExtern : Driver Unit := do
  let statics ← getStatics
  match statics.leds.uniwillKbBacklightType with
  | .fixedColor | .fixedColor5Levels =>
      let _ ← uniwillWriteKbdBlBrightnessWhiteWorkaround
        (statics.leds.ledCdevBrightness.setWidth 8)
      return ()
  | .oneZoneRgb =>
      let _ ← uniwillWriteKbdBlColor
        (statics.leds.subledRed.setWidth 8)
        (statics.leds.subledGreen.setWidth 8)
        (statics.leds.subledBlue.setWidth 8)
      let _ ← uniwillWriteKbdBlBrightness
        (statics.leds.mcledCdevBrightness.setWidth 8)
      return ()
  | .none | .perKeyRgb =>
      return ()

/-! ## Detection of the backlight type -/

def forceNoEcLedControl : List (DmiSystemId Unit) :=
  [ ⟨[(.sysVendor, "TUXEDO"), (.productSku, "STELLARIS1XA05")], ()⟩,
    ⟨[(.sysVendor, "TUXEDO"), (.productSku, "STELLSL15I06")], ()⟩ ]

def kblTypeFixedColor5Levels : List (DmiSystemId Unit) :=
  ["GXxHRXx", "GXxMRXx", "XxHP4NAx", "XxKK4NAx_XxSP4NAx", "XxAR4NAx"].map
    fun board => ⟨[(.sysVendor, "TUXEDO"), (.boardName, board)], ()⟩

/-- The barebones with a fixed colour keyboard, from `PFxxxxx` to
`PH4Pxxx`. -/
def fixedColorBarebones : List U8 :=
  [0x09, 0x0e, 0x12, 0x13, 0x14, 0x15, 0x16, 0x17, 0x18]

/-- The loop that reads the barebone ID; `result` is what the attempt before
returned. -/
def readBareboneId : Nat → Int → Driver Int
  | 0, result => pure result
  | retries + 1, _ => do
      let reply ← uniwillReadEcRam uwEcRegBareboneId
      setStatics fun statics =>
        { statics with leds.uniwillBareboneId := reply.data }
      if reply.status = 0 ∧ reply.data ≠ 0 then
        pure reply.status
      else
        readBareboneId retries reply.status

/-- Some devices need this bit for the backlight to be controllable. -/
def enableFixedColor5 : Driver Unit := do
  let _ ← updateUnchecked uwEcRegFeatures1 fun data =>
    data ||| uwEcRegFeatures1BitFixedColor5Enable
  return ()

def setBacklightType (type : KbBacklightType) : Driver Unit :=
  setStatics fun statics =>
    { statics with
      leds.uniwillKbBacklightType := type
      leds.uniwillKblBrightnessEcControlled := true }

/-- The choice of the backlight type. -/
def detectBacklightType (dmi : Dmi) : Driver Int := do
  let statics ← getStatics
  if dmiCheckSystem dmi forceNoEcLedControl = true then
    return 0
  else if statics.leds.uniwillBareboneId ∈ fixedColorBarebones then
    setBacklightType .fixedColor
    return 0
  else if dmiCheckSystem dmi kblTypeFixedColor5Levels = true then
    setBacklightType .fixedColor5Levels
    return 0
  else
    let data ← uniwillReadEcRam uwEcRegFeatures1
    if data.status ≠ 0 then
      return data.status
    else if data.data &&& uwEcRegFeatures1Bit1ZoneRgbKb ≠ 0 then
      setBacklightType .oneZoneRgb
      return 0
    else
      return 0

/-- The registration of the LED device; `register` is the result of the
kernel for it. -/
def registerBacklight (register : KbBacklightType → Int) : Driver Int := do
  let statics ← getStatics
  match statics.leds.uniwillKbBacklightType with
  | .fixedColor => return register .fixedColor
  | .fixedColor5Levels =>
      setStatics fun statics =>
        { statics with leds.ledCdevMaxBrightness := 0x04 }
      return register .fixedColor5Levels
  | .oneZoneRgb => return register .oneZoneRgb
  | .none | .perKeyRgb => return 0

def uniwillLedsInit (dmi : Dmi) (register : KbBacklightType → Int) :
    Driver Int := do
  let result ← readBareboneId 3 0
  let statics ← getStatics
  if result ≠ 0 ∨ statics.leds.uniwillBareboneId = 0 then
    return result
  else
    enableFixedColor5
    let result ← detectBacklightType dmi
    if result ≠ 0 then
      return result
    else
      let result ← registerBacklight register
      if result ≠ 0 then
        return result
      else
        setStatics fun statics =>
          { statics with leds.uwLedsInitialized := true }
        return 0

end TuxedoDrivers.Uniwill
