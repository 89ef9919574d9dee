import Mathlib.Data.List.FinRange
import TuxedoDrivers.Ite.Hid

/-!
# The keyboards of `ite_829x`

Every key is a LED of the class, and a key of the keyboard goes through a few
modes that colour all keys.  The intensities of the LEDs and the mode are both
kept, and both are sent again on resume.
-/

namespace TuxedoDrivers.Ite

open Interaction

abbrev keyboardRows : Nat := 6
abbrev keyboardColumns : Nat := 20

def ite829xKbdBrightnessMax : U32 := 0x0a
def defaultMode : Nat := 6
def keyLightsToggle : U64 := 0x21e

/-- The channel of a LED: `((row & 0x07) << 5) | (col & 0x1f)` as a byte. -/
def getLedId (row col : Nat) : U8 :=
  BitVec.ofNat 8 (((row &&& 0x07) <<< 5) ||| (col &&& 0x1f))

/-! ## Modes -/

def modeToColor : List Nat :=
  [0xff0000, 0x00ff00, 0x0000ff, 0xffff00, 0xff00ff, 0x00ffff, 0xffffff]

def modeMapLength : Nat := modeToColor.length
def modeExtrasLength : Nat := 2

/-- The components of an entry of `mode_to_color`. -/
def splitColour (value : Nat) : Colour :=
  ⟨BitVec.ofNat 8 (value >>> 0x10), BitVec.ofNat 8 (value >>> 0x08),
    BitVec.ofNat 8 (value >>> 0x00)⟩

/-- Red for the keys of the name, white for the others. -/
def letterColour (row : Fin keyboardRows) (col : Fin keyboardColumns) :
    Colour :=
  if (row = 2 ∧ col = 6) ∨ (row = 2 ∧ col = 8) ∨ (row = 4 ∧ col = 4) ∨
      (row = 2 ∧ col = 4) ∨ (row = 3 ∧ col = 4) ∨
      (row = 2 ∧ col = 10) then
    ⟨0xff, 0x00, 0x00⟩
  else ⟨0xff, 0xff, 0xff⟩

/-! ## Driver data -/

structure TiData where
  brightness : U32
  mode : Nat
  deriving DecidableEq, Repr

/-- The static variables; `kbdev` tells whether there is a device. -/
structure Ite829x where
  kbdev : Bool
  tiData : TiData
  mcledCdevs : LedArray keyboardRows keyboardColumns

/-- The variables of a module that was just loaded. -/
def Ite829x.loaded : Ite829x where
  kbdev := false
  tiData := { brightness := 0x00, mode := defaultMode }
  mcledCdevs := fun _ _ => ⟨0, 0, ⟨0, 0, 0⟩, 0⟩

/-- Other intensities for every LED. -/
def Ite829x.withColours (driver : Ite829x)
    (colours : Fin keyboardRows → Fin keyboardColumns → Colour) :
    Ite829x :=
  { driver with
    mcledCdevs := fun row col =>
      { driver.mcledCdevs row col with
        intensities := (colours row col).intensities } }

/-! ## Commands -/

def keybSendData (kbdev : Bool) (cmd d0 d1 d2 d3 : U8) : Hid Int :=
  if kbdev = false then
    pure (-enodev)
  else
    hidHwRawRequest 0xcc [0xcc, cmd, d0, d1, d2, d3]

def keybSendColour (kbdev : Bool) (channel : U8) (colour : Colour) :
    Hid Int :=
  keybSendData kbdev 0x01 channel colour.red colour.green colour.blue

/-- The keys in the order of the loops over rows and columns. -/
def keys : List (Fin keyboardRows × Fin keyboardColumns) :=
  (List.finRange keyboardRows).flatMap fun row =>
    (List.finRange keyboardColumns).map fun col => (row, col)

/-- A loop over all keys that sends a colour for each. -/
def sendColours (kbdev : Bool)
    (colours : Fin keyboardRows → Fin keyboardColumns → Colour) :
    Hid PUnit :=
  keys.forM fun key => do
    let _ ← keybSendColour kbdev (getLedId key.1 key.2)
      (colours key.1 key.2)
    return ()

/-- The loops that store the intensities of every LED and send them. -/
def keybSetColours (driver : Ite829x)
    (colours : Fin keyboardRows → Fin keyboardColumns → Colour) :
    Hid Ite829x := do
  sendColours driver.kbdev colours
  return driver.withColours colours

def keybSetAll (driver : Ite829x) (colour : Colour) : Hid Ite829x :=
  keybSetColours driver fun _ _ => colour

def sendMode (driver : Ite829x) (mode : Nat) : Hid Ite829x := do
  if driver.kbdev = false then
    return driver
  else if mode < modeMapLength then
    keybSetAll driver (splitColour (modeToColor.getD mode 0))
  else if mode = modeMapLength then
    keybSetColours driver letterColour
  else if mode = modeMapLength + 1 then
    -- random colours, an animation of the device itself
    let _ ← keybSendData driver.kbdev 0x00 0x09 0x00 0x00 0x00
    return driver
  else
    return driver

/-! ## LED class -/

def leds829xSetBrightnessMc (driver : Ite829x) (led : McLed)
    (brightness : U32) : Hid Ite829x := do
  let _ ← keybSendData driver.kbdev 0x09 (brightness.setWidth 8) 0x02 0x00
    0x00
  let _ ← keybSendColour driver.kbdev (led.channel.setWidth 8)
    led.intensities.colour
  return { driver with
    tiData.brightness := brightness
    mcledCdevs := driver.mcledCdevs.withBrightness brightness }

/-- `led_set_brightness` for one of the LEDs. -/
def led829xSetBrightness (driver : Ite829x) (row : Fin keyboardRows)
    (col : Fin keyboardColumns) (value : U32) : Hid Ite829x :=
  let led := (driver.mcledCdevs row col).setBrightness value
  leds829xSetBrightnessMc
    { driver with mcledCdevs := driver.mcledCdevs.replace row col led }
    led led.brightness

/-- A write to `multi_intensity`. -/
def multiIntensity829xStore (driver : Ite829x) (row : Fin keyboardRows)
    (col : Fin keyboardColumns) (intensities : Intensities) :
    Hid Ite829x :=
  let led : McLed := { driver.mcledCdevs row col with intensities }
  led829xSetBrightness
    { driver with mcledCdevs := driver.mcledCdevs.replace row col led }
    row col led.brightness

/-! ## Mode key -/

/-- The mode after the next one. -/
def nextMode (mode : Nat) : Nat :=
  if mode + 1 ≥ modeMapLength + modeExtrasLength then 0 else mode + 1

abbrev modeCount : Nat := modeMapLength + modeExtrasLength

theorem nextMode_lt (mode : Nat) : nextMode mode < modeCount := by
  unfold nextMode modeCount
  split
  · decide
  · omega

theorem nextMode_eq {mode : Nat} (valid : mode < modeCount) :
    nextMode mode = (mode + 1) % modeCount := by
  unfold nextMode
  unfold modeCount at valid ⊢
  split
  case isTrue last =>
    have same : mode + 1 = modeMapLength + modeExtrasLength := by
      omega
    rw [same, Nat.mod_self]
  case isFalse more =>
    rw [Nat.mod_eq_of_lt]
    omega

def keyActions (driver : Ite829x) (keyCode : U64) : Hid Ite829x :=
  if keyCode = keyLightsToggle then
    let mode := nextMode driver.tiData.mode
    sendMode { driver with tiData.mode := mode } mode
  else
    pure driver

/-! ## Probe and power management -/

/-- A LED as the probe sets it up. -/
def registered829xLed (row : Fin keyboardRows)
    (col : Fin keyboardColumns) : McLed :=
  { brightness := 0x00
    maxBrightness := ite829xKbdBrightnessMax
    intensities := ⟨255, 255, 255⟩
    channel := (getLedId row col).setWidth 32 }

/-- A successful `probe_callb`. -/
def probeCallb (driver : Ite829x) : Hid Ite829x := do
  let started : Ite829x := { driver with kbdev := true }
  let _ ← keybSendData started.kbdev 0x09
    (started.tiData.brightness.setWidth 8) 0x02 0x00 0x00
  sendColours started.kbdev fun _ _ => ⟨255, 255, 255⟩
  return { started with mcledCdevs := registered829xLed }

/-- `driver_resume_callb`; the suspend callback does nothing. -/
def driver829xResumeCallb (driver : Ite829x) : Hid Ite829x := do
  let _ ← keybSendData driver.kbdev 0x09
    (driver.tiData.brightness.setWidth 8) 0x02 0x00 0x00
  sendColours driver.kbdev fun row col =>
    (driver.mcledCdevs row col).intensities.colour
  sendMode driver driver.tiData.mode

end TuxedoDrivers.Ite
