import TuxedoDrivers.Kernel

/-!
# Variables of the Uniwill driver

The static variables of `uniwill_keyboard.h` and `uniwill_leds.h` that the
modelled functions read or write, grouped by what they are about.  The
default values are the ones the variables have when the module is loaded.
-/

namespace TuxedoDrivers.Uniwill

/-- `struct uniwill_device_features_t`. -/
structure DeviceFeatures where
  model : U8 := 0
  uniwillProfileV1 : Bool := false
  uniwillProfileV1TwoProfs : Bool := false
  uniwillProfileV1ThreeProfs : Bool := false
  uniwillProfileV1ThreeProfsLedsOnly : Bool := false
  uniwillCustomProfileModeNeeded : Bool := false
  uniwillHasChargingPrio : Bool := false
  uniwillHasChargingProfile : Bool := false
  uniwillHasUniversalEcFanControl : Bool := false
  uniwillHasDoublePl4 : Bool := false
  uniwillHasAcAutoBoot : Bool := false
  uniwillHasUsbPowershare : Bool := false
  uniwillHasMiniLedLocalDimming : Bool := false
  uniwillHasHiddenBiosOptions : Bool := false
  deriving DecidableEq, Repr

/-- `uniwill_kb_backlight_type_t`. -/
inductive KbBacklightType where
  | none
  | fixedColor
  | fixedColor5Levels
  | oneZoneRgb
  | perKeyRgb
  deriving DecidableEq, Repr

/-- The variables of the fan control. -/
structure FanStatics where
  directFanControlCurrentValueFan0 : U8 := 0
  directFanControlCurrentValueFan1 : U8 := 0
  directFanControlCurrentValueFan0SuspendSave : U8 := 0
  directFanControlCurrentValueFan1SuspendSave : U8 := 0
  fansInitialized : Bool := false
  directFanControlStarted : Bool := false
  directFanControlSuspend : Bool := false
  /-- Whether `direct_fan_control_restart_delayed_work` is pending. -/
  restartWorkPending : Bool := false
  deriving DecidableEq, Repr

/-- The settings remembered for a restore. -/
structure SettingStatics where
  uwChargingPrioLoaded : Bool := false
  uwChargingPrioLastWrittenValue : Bool := false
  uwChargingProfileLoaded : Bool := false
  uwChargingProfileLastWrittenValue : U8 := 0
  uwAcAutoBootLastWrittenValue : Bool := false
  uwUsbPowershareLastWrittenValue : Bool := false
  deriving DecidableEq, Repr

/-- The variables of the keyboard backlight. -/
structure LedStatics where
  uniwillKbBacklightType : KbBacklightType := .none
  uniwillBareboneId : U8 := 0
  uniwillKblBrightnessEcControlled : Bool := false
  uwLedsInitialized : Bool := false
  /-- `uniwill_led_cdev.brightness`. -/
  ledCdevBrightness : U32 := 0
  /-- `uniwill_led_cdev.max_brightness`. -/
  ledCdevMaxBrightness : U32 := 2
  /-- `uniwill_mcled_cdev.led_cdev.brightness`. -/
  mcledCdevBrightness : U32 := 0
  /-- The intensities of `uw_mcled_cdev_subleds`. -/
  subledRed : U32 := 0xff
  subledGreen : U32 := 0xff
  subledBlue : U32 := 0xff
  deriving DecidableEq, Repr

/-- The static variables of the driver. -/
structure DriverState where
  uniwillDeviceFeatures : DeviceFeatures := {}
  uwFeatsLoaded : Bool := false
  fan : FanStatics := {}
  settings : SettingStatics := {}
  leds : LedStatics := {}
  deriving DecidableEq, Repr

end TuxedoDrivers.Uniwill
