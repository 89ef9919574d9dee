import TuxedoDrivers.Interaction.Runs
import TuxedoDrivers.Uniwill.Backlight

/-!
# Restoring the single-zone RGB keyboard

The firmware may change the backlight registers, and
`uniwill_leds_restore_state_extern` writes them again from the intensities
and the brightness of the LED class.  The set path treats black by switching
the backlight off and the restore path does not, so the restore reproduces
what was set exactly when it was not black with a brightness.
-/

namespace TuxedoDrivers.Uniwill

open Interaction

/-! ## What is lit -/

/-- What the registers make of the backlight: the colour registers do not
matter while the brightness bits are 0. -/
inductive EffectiveBacklight where
  | off
  | lit (brightness red green blue : U8)
  deriving DecidableEq, Repr

/-- Bits 7 to 5 of 0x078c. -/
def brightnessBits (ram : Ram) : U8 :=
  ram uwEcRegKbdBlStatus >>> 5

def effectiveBacklight (ram : Ram) : EffectiveBacklight :=
  if brightnessBits ram = 0 then .off
  else
    .lit (brightnessBits ram) (ram uwEcRegKbdBlRgbRedBrightness)
      (ram uwEcRegKbdBlRgbGreenBrightness)
      (ram uwEcRegKbdBlRgbBlueBrightness)

/-! ## Steps -/

/-- The LED class stores the intensities and calls
`uniwill_leds_set_brightness_mc`, the firmware changes the EC RAM, or an
event restores the backlight. -/
inductive BacklightStep where
  | set (red green blue brightness : U32)
  | clobber (ram : Ram)
  | restore

namespace BacklightStep

def IsSet : BacklightStep → Prop
  | .set _ _ _ _ => True
  | .clobber _ => False
  | .restore => False

end BacklightStep

def storeIntensities (red green blue : U32) : Driver Unit :=
  setStatics fun statics =>
    { statics with
      leds.subledRed := red
      leds.subledGreen := green
      leds.subledBlue := blue }

def setMultiIntensity (red green blue brightness : U32) : Driver Unit := do
  storeIntensities red green blue
  uniwillLedsSetBrightnessMc brightness

def applyBacklight : BacklightStep → Machine Ram → Machine Ram
  | .set red green blue brightness, machine =>
      (reliableEc.run (setMultiIntensity red green blue brightness)
        machine).2
  | .clobber ram, machine => (machine.1, ram)
  | .restore, machine =>
      (reliableEc.run uniwillLedsRestoreStateExtern machine).2

/-! ## Writes of brightness and colour -/

/-- The registers after a write of the brightness. -/
def withBrightness (brightness : U8) (ram : Ram) : Ram :=
  Function.update ram uwEcRegKbdBlStatus
    (kbdBlBrightnessByte brightness (ram uwEcRegKbdBlStatus))

/-- The registers after a write of the colour. -/
def withColor (red green blue : U8) (ram : Ram) : Ram :=
  let colored :=
    Function.update
      (Function.update
        (Function.update ram uwEcRegKbdBlRgbRedBrightness
          (tfConvertRgbRange red))
        uwEcRegKbdBlRgbGreenBrightness (tfConvertRgbRange green))
      uwEcRegKbdBlRgbBlueBrightness (tfConvertRgbRange blue)
  Function.update colored uwEcRegKbdBlRgbMode
    (colored uwEcRegKbdBlRgbMode ||| uwEcRegKbdBlRgbModeBitApplyColor)

@[simp]
theorem run_uniwillWriteKbdBlBrightness
    (brightness : U8) (machine : Machine Ram) :
    reliableEc.run (uniwillWriteKbdBlBrightness brightness) machine =
      (0, machine.1, withBrightness brightness machine.2) := by
  simp [uniwillWriteKbdBlBrightness, updateChecked, withBrightness]

@[simp]
theorem run_uniwillWriteKbdBlColor
    (red green blue : U8) (machine : Machine Ram) :
    reliableEc.run (uniwillWriteKbdBlColor red green blue) machine =
      (0, machine.1, withColor red green blue machine.2) := by
  simp [uniwillWriteKbdBlColor, updateChecked, withColor]

/-- The brightness register shows the lower three bits of the brightness. -/
theorem brightnessBits_withBrightness (brightness : U8) (ram : Ram) :
    brightnessBits (withBrightness brightness ram) = brightness &&& 0x07 := by
  have shifted : ∀ value : U8, (value <<< 5) >>> 5 = value &&& 0x07 := by
    decide
  have lower : ∀ data : U8, (data &&& ((0x0f : Nat) : U8)) >>> 5 = 0 := by
    decide
  rw [brightnessBits, withBrightness, Function.update_self,
    kbdBlBrightnessByte, BitVec.ushiftRight_or_distrib,
    BitVec.ushiftRight_or_distrib, shifted, lower]
  generalize brightness &&& 0x07 = bits
  revert bits
  decide

/-- After both writes the backlight depends on nothing else. -/
theorem effectiveBacklight_written
    (red green blue brightness : U8) (ram : Ram) :
    effectiveBacklight
        (withBrightness brightness (withColor red green blue ram)) =
      if brightness &&& 0x07 = 0 then .off
      else
        .lit (brightness &&& 0x07) (tfConvertRgbRange red)
          (tfConvertRgbRange green) (tfConvertRgbRange blue) := by
  rw [effectiveBacklight, brightnessBits_withBrightness]
  split
  · rfl
  · simp [withBrightness, withColor]

theorem effectiveBacklight_zero (ram : Ram) :
    effectiveBacklight (withBrightness 0 ram) = .off := by
  rw [effectiveBacklight, brightnessBits_withBrightness]
  exact if_pos (by decide)

/-! ## The variables of the LED class -/

/-- What the restore path reads. -/
structure RgbLed (statics : DriverState) (red green blue brightness : U32) :
    Prop where
  type : statics.leds.uniwillKbBacklightType = .oneZoneRgb
  red : statics.leds.subledRed = red
  green : statics.leds.subledGreen = green
  blue : statics.leds.subledBlue = blue
  brightness : statics.leds.mcledCdevBrightness = brightness

/-- The special case of `uniwill_leds_set_brightness_mc`. -/
def IsBlack (red green blue : U32) : Prop :=
  red = 0 ∧ green = 0 ∧ blue = 0

instance (red green blue : U32) : Decidable (IsBlack red green blue) :=
  inferInstanceAs (Decidable (_ ∧ _ ∧ _))

/-- What the writes of a colour and a brightness make of the backlight. -/
def writtenBacklight (red green blue brightness : U32) :
    EffectiveBacklight :=
  if brightness.setWidth 8 &&& (0x07 : U8) = 0 then .off
  else
    .lit (brightness.setWidth 8 &&& 0x07)
      (tfConvertRgbRange (red.setWidth 8))
      (tfConvertRgbRange (green.setWidth 8))
      (tfConvertRgbRange (blue.setWidth 8))

section Steps

variable {machine : Machine Ram} {red green blue brightness : U32}

/-- A set call caches what it was given, and writes black as brightness 0. -/
theorem applyBacklight_set (red green blue brightness : U32) :
    applyBacklight (.set red green blue brightness) machine =
      ({ machine.1 with
          leds.subledRed := red
          leds.subledGreen := green
          leds.subledBlue := blue
          leds.mcledCdevBrightness := brightness },
        if IsBlack red green blue then withBrightness 0 machine.2
        else
          withBrightness (brightness.setWidth 8)
            (withColor (red.setWidth 8) (green.setWidth 8)
              (blue.setWidth 8) machine.2)) := by
  simp only [applyBacklight, setMultiIntensity, storeIntensities,
    uniwillLedsSetBrightnessMc, run_bind, run_setStatics, run_getStatics,
    run_ite, run_uniwillWriteKbdBlBrightness, run_uniwillWriteKbdBlColor,
    ne_eq, not_true_eq_false, if_false]
  by_cases black : red = 0 ∧ green = 0 ∧ blue = 0
  · rw [if_pos black]
    exact congrArg (Prod.mk _) (if_pos black).symm
  · rw [if_neg black]
    exact congrArg (Prod.mk _) (if_neg black).symm

theorem effectiveBacklight_set (red green blue brightness : U32) :
    effectiveBacklight
        (applyBacklight (.set red green blue brightness) machine).2 =
      if IsBlack red green blue then .off
      else writtenBacklight red green blue brightness := by
  rw [applyBacklight_set]
  by_cases black : IsBlack red green blue
  · simp only [if_pos black]
    exact effectiveBacklight_zero machine.2
  · simp only [if_neg black]
    exact effectiveBacklight_written _ _ _ _ machine.2

/-- On this keyboard the restore writes the cached values, black not
apart. -/
theorem applyBacklight_restore
    (type : machine.1.leds.uniwillKbBacklightType = .oneZoneRgb) :
    applyBacklight .restore machine =
      (machine.1,
        withBrightness (machine.1.leds.mcledCdevBrightness.setWidth 8)
          (withColor (machine.1.leds.subledRed.setWidth 8)
            (machine.1.leds.subledGreen.setWidth 8)
            (machine.1.leds.subledBlue.setWidth 8) machine.2)) := by
  simp only [applyBacklight, uniwillLedsRestoreStateExtern, run_bind,
    run_getStatics, type, run_uniwillWriteKbdBlColor,
    run_uniwillWriteKbdBlBrightness, run_pure]

theorem effectiveBacklight_restore
    (led : RgbLed machine.1 red green blue brightness) :
    effectiveBacklight (applyBacklight .restore machine).2 =
      writtenBacklight red green blue brightness := by
  rw [applyBacklight_restore led.type, led.red, led.green, led.blue,
    led.brightness]
  exact effectiveBacklight_written _ _ _ _ machine.2

theorem type_of_applyBacklight (step : BacklightStep)
    (type : machine.1.leds.uniwillKbBacklightType = .oneZoneRgb) :
    (applyBacklight step machine).1.leds.uniwillKbBacklightType =
      .oneZoneRgb := by
  cases step with
  | set red green blue brightness =>
      rw [applyBacklight_set]
      exact type
  | clobber ram =>
      exact type
  | restore =>
      rw [applyBacklight_restore type]
      exact type

/-- A step other than a set call leaves the cached values. -/
theorem rgbLed_of_applyBacklight {step : BacklightStep}
    (notSet : ¬ step.IsSet)
    (led : RgbLed machine.1 red green blue brightness) :
    RgbLed (applyBacklight step machine).1 red green blue brightness := by
  cases step with
  | set red green blue brightness =>
      exact absurd trivial notSet
  | clobber ram =>
      exact led
  | restore =>
      rw [applyBacklight_restore led.type]
      exact led

end Steps

/-! ## Runs -/

section Runs

variable {machine : Machine Ram} {red green blue brightness : U32}

theorem rgbLed_of_runSteps {later : List BacklightStep}
    (noSet : ∀ step ∈ later, ¬ step.IsSet)
    (led : RgbLed machine.1 red green blue brightness) :
    RgbLed (runSteps applyBacklight later machine).1 red green blue
      brightness := by
  induction later generalizing machine with
  | nil =>
      exact led
  | cons step rest inductionHypothesis =>
      have afterStep :=
        rgbLed_of_applyBacklight (noSet step List.mem_cons_self) led
      exact
        inductionHypothesis
          (fun other member =>
            noSet other (List.mem_cons_of_mem step member))
          afterStep

/-- The written backlight is off for a brightness whose bits are 0. -/
theorem writtenBacklight_eq_off_iff (red green blue brightness : U32) :
    writtenBacklight red green blue brightness = .off ↔
      brightness.setWidth 8 &&& (0x07 : U8) = 0 := by
  rw [writtenBacklight]
  split <;> simp_all

/-- After any run, the restore that follows the last set call reproduces
the backlight that the call left exactly when the call was not for black
with a brightness. -/
theorem restore_reproducesSet_iff
    (machine : Machine Ram)
    (type : machine.1.leds.uniwillKbBacklightType = .oneZoneRgb)
    (before : List BacklightStep) (red green blue brightness : U32)
    (later : List BacklightStep)
    (noSet : ∀ step ∈ later, ¬ step.IsSet) :
    let afterSet :=
      runSteps applyBacklight
        (before ++ [.set red green blue brightness]) machine
    let restored :=
      applyBacklight .restore (runSteps applyBacklight later afterSet)
    effectiveBacklight restored.2 = effectiveBacklight afterSet.2 ↔
      ¬ (IsBlack red green blue ∧
        brightness.setWidth 8 &&& (0x07 : U8) ≠ 0) := by
  intro afterSet restored
  have typeBefore :
      (runSteps applyBacklight before
        machine).1.leds.uniwillKbBacklightType = .oneZoneRgb :=
    runSteps_preserves applyBacklight
      (fun reached : Machine Ram =>
        reached.1.leds.uniwillKbBacklightType = .oneZoneRgb)
      (fun step _ => type_of_applyBacklight step) before type
  have setLast :
      afterSet =
        applyBacklight (.set red green blue brightness)
          (runSteps applyBacklight before machine) :=
    runSteps_append applyBacklight before _ machine
  have ledAfterSet : RgbLed afterSet.1 red green blue brightness := by
    rw [setLast, applyBacklight_set]
    exact ⟨typeBefore, rfl, rfl, rfl, rfl⟩
  have ledBeforeRestore := rgbLed_of_runSteps noSet ledAfterSet
  have restoredShows := effectiveBacklight_restore ledBeforeRestore
  rw [show restored = _ from rfl, restoredShows, setLast,
    effectiveBacklight_set]
  by_cases black : IsBlack red green blue
  · rw [if_pos black, writtenBacklight_eq_off_iff]
    simp [black]
  · rw [if_neg black]
    simp [black]

/-- The driver after it found a single-zone RGB keyboard, with all backlight
registers 0. -/
def oneZoneRgbMachine : Machine Ram :=
  ({ leds.uniwillKbBacklightType := .oneZoneRgb }, fun _ => 0)

theorem restore_reproducesSet_iff_red :
    let set : BacklightStep := .set 0xff 0 0 2
    let afterSet := runSteps applyBacklight [set] oneZoneRgbMachine
    let restored :=
      applyBacklight .restore
        (runSteps applyBacklight [.clobber fun _ => 0xff] afterSet)
    oneZoneRgbMachine.1.leds.uniwillKbBacklightType = .oneZoneRgb ∧
      (effectiveBacklight restored.2 = effectiveBacklight afterSet.2 ↔
        ¬ (IsBlack 0xff 0 0 ∧
          (2 : U32).setWidth 8 &&& (0x07 : U8) ≠ 0)) := by
  have noSet :
      ∀ step ∈ [BacklightStep.clobber fun _ => 0xff], ¬ step.IsSet := by
    simp [BacklightStep.IsSet]
  exact
    ⟨rfl,
      restore_reproducesSet_iff oneZoneRgbMachine rfl [] 0xff 0 0 2 _ noSet⟩

/-- Black with brightness 4 is off, and lit after a restore. -/
theorem restore_afterBlack :
    let afterSet := applyBacklight (.set 0 0 0 4) oneZoneRgbMachine
    effectiveBacklight afterSet.2 = .off ∧
      effectiveBacklight (applyBacklight .restore afterSet).2 =
        .lit 4 0 0 0 := by
  decide

end Runs

end TuxedoDrivers.Uniwill
