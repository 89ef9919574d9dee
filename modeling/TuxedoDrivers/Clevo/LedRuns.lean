import TuxedoDrivers.Clevo.CallViews
import TuxedoDrivers.Clevo.Leds
import TuxedoDrivers.Words.Bytes

/-!
# The lights of an RGB keyboard over runs of the driver

The LED devices of `clevo_leds.h` are stored zone by zone, while the firmware
has one brightness for the whole keyboard and forgets what it shows when the
machine sleeps.  The keyboard decodes the words that the driver packs.  From
a resume on, whatever is set afterwards, it shows what the LED devices say.
-/

namespace TuxedoDrivers.Clevo

open Interaction
open TuxedoDrivers.Words

/-- A zone is one of three. -/
theorem zones_neZero : NeZero 3 :=
  ⟨by decide⟩

attribute [local instance] zones_neZero

/-! ## The driver -/

section Driver

variable (activeClevoInterface : Option ClevoInterface)

def isRgb (type : U8) : Prop :=
  type = clevoKbBacklightType1ZoneRgb ∨ type = clevoKbBacklightType3ZoneRgb

instance (type : U8) : Decidable (isRgb type) :=
  inferInstanceAs (Decidable (_ ∨ _))

def clevoLedsSuspend (leds : ClevoLeds) : Call Int := do
  if isRgb leds.backlightType then
    let _ ← clevoEvaluateSetKeyboardStatus activeClevoInterface 0
    return 0
  else
    return 0

def clevoLedsResume (leds : ClevoLeds) : Call Int := do
  if isRgb leds.backlightType then
    let _ ← clevoEvaluateSetKeyboardStatus activeClevoInterface 1
    return 0
  else
    return 0

/-- A zone is set to the brightness that it has. -/
def restoreZone (leds : ClevoLeds) (zone : Fin 3) : Call ClevoLeds :=
  clevoLedsSetBrightnessMc activeClevoInterface leds zone
    (leds.zones zone).brightness

def clevoLedsRestoreStateExtern (leds : ClevoLeds) : Call ClevoLeds := do
  if leds.backlightType = clevoKbBacklightTypeFixedColor then
    clevoLedsSetBrightness activeClevoInterface leds leds.brightness
  else if leds.backlightType = clevoKbBacklightType1ZoneRgb then
    restoreZone activeClevoInterface leds 0
  else if leds.backlightType = clevoKbBacklightType3ZoneRgb then
    let leds ← restoreZone activeClevoInterface leds 0
    let leds ← restoreZone activeClevoInterface leds 1
    restoreZone activeClevoInterface leds 2
  else
    return leds

def clevoKeyboardSuspend (leds : ClevoLeds) : Call Int := do
  let _ ← clevoLedsSuspend activeClevoInterface leds
  return 0

/-- The result and the LED devices. -/
def clevoKeyboardResume (leds : ClevoLeds) : Call (Int × ClevoLeds) := do
  -- `CLEVO_CMD_SET_EVENTS_ENABLED`
  let _ ← clevoEvaluateMethod activeClevoInterface 0x46 0
  let leds ← clevoLedsRestoreStateExtern activeClevoInterface leds
  let _ ← clevoLedsResume activeClevoInterface leds
  return (0, leds)

/-- `color_list`. -/
def colorList : List U32 :=
  [0x000000, 0xff0000, 0x00ff00, 0x0000ff, 0xffff00, 0xff00ff, 0x00ffff,
    0xffffff]

/-- The next color after one of the list; black is skipped. -/
def nextColorId (wholeKbdColor : U8) : Nat :=
  if wholeKbdColor.toNat + 1 ≥ colorList.length then 1
  else wholeKbdColor.toNat + 1

theorem nextColorId_lt (wholeKbdColor : U8) :
    nextColorId wholeKbdColor < colorList.length := by
  rw [nextColorId]
  split
  · decide
  · omega

/-- The color is read at an index of the list. -/
def nextColor (wholeKbdColor : U8) : U32 :=
  colorList.get ⟨nextColorId wholeKbdColor, nextColorId_lt wholeKbdColor⟩

/-- The LED devices and `whole_kbd_color`. -/
def setNextColorWholeKb (leds : ClevoLeds) (wholeKbdColor : U8) :
    Call (ClevoLeds × U8) := do
  let leds ←
    clevoLedsSetColorExtern activeClevoInterface leds
      (nextColor wholeKbdColor)
  return (leds, BitVec.ofNat 8 (nextColorId wholeKbdColor))

/-! ## The LED class -/

/-- A store to `brightness` of a zone: the LED core limits it and keeps it
before it calls the driver. -/
def storeBrightness (leds : ClevoLeds) (zone : Fin 3) (value : U32) :
    Call ClevoLeds :=
  let brightness : U32 := if value ≤ 0xff then value else 0xff
  clevoLedsSetBrightnessMc activeClevoInterface
    { leds with
      zones := Function.update leds.zones zone
        { leds.zones zone with brightness } }
    zone brightness

/-- A store to `multi_intensity` of a zone: the LED core keeps the
intensities and sets the zone to the brightness that it has. -/
def storeMultiIntensity (leds : ClevoLeds) (zone : Fin 3)
    (red green blue : U32) : Call ClevoLeds :=
  clevoLedsSetBrightnessMc activeClevoInterface
    { leds with
      zones := Function.update leds.zones zone
        { leds.zones zone with red, green, blue } }
    zone (leds.zones zone).brightness

end Driver

/-! ## The keyboard -/

/-- Red, green and blue of a zone. -/
abbrev Rgb : Type := U8 × U8 × U8

structure Lights where
  enabled : Bool
  brightness : U8
  color : Fin 3 → Rgb

namespace Lights

/-- The bytes of a color word are green, red and blue, the lowest first. -/
def setColor (lights : Lights) (zone : Fin 3) (word : U32) : Lights :=
  { lights with
    color := Function.update lights.color zone
      (byteAt word 1, byteAt word 0, byteAt word 2) }

/-- What `CLEVO_CMD_SET_KB_RGB_LEDS` does, by the highest byte of its
word. -/
def execute (lights : Lights) (word : U32) : Lights :=
  if byteAt word 3 = 0xf4 then { lights with brightness := byteAt word 0 }
  else if byteAt word 3 = 0xf0 then lights.setColor 0 word
  else if byteAt word 3 = 0xf1 then lights.setColor 1 word
  else if byteAt word 3 = 0xf2 then lights.setColor 2 word
  else if word = 0xe007f001 then { lights with enabled := true }
  else if word = 0xe0003001 then { lights with enabled := false }
  else lights

section Words

variable (lights : Lights)

theorem execute_brightness (brightness : U8) :
    lights.execute (0xf4000000 ||| brightness.setWidth 32) =
      { lights with brightness := brightness } := by
  have subcommand :
      byteAt (0xf4000000 ||| brightness.setWidth 32 : U32) 3 = 0xf4 := by
    ext position bound
    interval_cases position <;> simp [byteAt]
  have argument :
      byteAt (0xf4000000 ||| brightness.setWidth 32 : U32) 0 =
        brightness := by
    ext position bound
    interval_cases position <;> simp [byteAt]
  rw [execute, if_pos subcommand, argument]

/-- The sum of the bytes of a color is the word with these bytes. -/
theorem color_eq_or (red green blue : U8) :
    (red.setWidth 32 <<< 16) + (green.setWidth 32 <<< 8) +
        blue.setWidth 32 =
      ((red.setWidth 32 <<< 16) ||| (green.setWidth 32 <<< 8) |||
        blue.setWidth 32 : U32) := by
  have apart :
      (red.setWidth 32 <<< 16 : U32) &&& green.setWidth 32 <<< 8 = 0 := by
    ext position bound
    interval_cases position <;> simp
  have apartBlue :
      ((red.setWidth 32 <<< 16 : U32) ||| green.setWidth 32 <<< 8) &&&
        blue.setWidth 32 = 0 := by
    ext position bound
    interval_cases position <;> simp
  rw [BitVec.add_eq_or_of_and_eq_zero _ _ apart,
    BitVec.add_eq_or_of_and_eq_zero _ _ apartBlue]

/-- The color word of a zone, as the driver packs it. -/
def colorWord (zone : Fin 3) (red green blue : U8) : U32 :=
  let color : U32 :=
    (red.setWidth 32 <<< 16) + (green.setWidth 32 <<< 8) + blue.setWidth 32
  ledChannel zone |||
    (((color &&& 0x0000ff) <<< 16) ||| ((color &&& 0xff0000) >>> 8) |||
      ((color &&& 0x00ff00) >>> 8))

theorem byteAt_colorWord (zone : Fin 3) (red green blue : U8) :
    byteAt (colorWord zone red green blue) 0 = green ∧
      byteAt (colorWord zone red green blue) 1 = red ∧
      byteAt (colorWord zone red green blue) 2 = blue ∧
      byteAt (colorWord zone red green blue) 3 =
        BitVec.ofNat 8 (0xf0 + zone.val) := by
  have channel :
      ledChannel zone =
        (BitVec.ofNat 8 (0xf0 + zone.val)).setWidth 32 <<< 24 := by
    match zone with
    | 0 => decide
    | 1 => decide
    | 2 => decide
  simp only [colorWord, color_eq_or, channel]
  refine ⟨?_, ?_, ?_, ?_⟩
  all_goals
    ext position bound
    interval_cases position <;> simp [byteAt]

theorem execute_of_zone {zone : Fin 3} {word : U32}
    (subcommand : byteAt word 3 = BitVec.ofNat 8 (0xf0 + zone.val)) :
    lights.execute word = lights.setColor zone word := by
  have apart (other : Nat) (below : other < 8) (different : other ≠ zone) :
      byteAt word 3 ≠ BitVec.ofNat 8 (0xf0 + other) := by
    rw [subcommand]
    intro same
    have equal := congrArg BitVec.toNat same
    simp only [BitVec.toNat_ofNat] at equal
    omega
  have notBrightness : byteAt word 3 ≠ 0xf4 := apart 4 (by decide) (by omega)
  rw [execute, if_neg notBrightness]
  by_cases first : zone = 0
  · rw [first] at subcommand ⊢
    exact if_pos subcommand
  have notFirst : byteAt word 3 ≠ 0xf0 := apart 0 (by decide) (by omega)
  rw [if_neg notFirst]
  by_cases second : zone = 1
  · rw [second] at subcommand ⊢
    exact if_pos subcommand
  have notSecond : byteAt word 3 ≠ 0xf1 := apart 1 (by decide) (by omega)
  have third : zone = 2 := by omega
  rw [if_neg notSecond]
  rw [third] at subcommand ⊢
  exact if_pos subcommand

theorem execute_colorWord (zone : Fin 3) (red green blue : U8) :
    lights.execute (colorWord zone red green blue) =
      { lights with
        color := Function.update lights.color zone (red, green, blue) } := by
  obtain ⟨greenByte, redByte, blueByte, subcommand⟩ :=
    byteAt_colorWord zone red green blue
  rw [execute_of_zone lights subcommand, setColor, greenByte, redByte,
    blueByte]

theorem execute_status :
    lights.execute 0xe007f001 = { lights with enabled := true } ∧
      lights.execute 0xe0003001 = { lights with enabled := false } :=
  ⟨rfl, rfl⟩

end Words

/-- The words that the driver sends. -/
inductive Sent : U32 → Prop where
  | brightness (brightness : U8) :
      Sent (0xf4000000 ||| brightness.setWidth 32)
  | color (zone : Fin 3) (red green blue : U8) :
      Sent (colorWord zone red green blue)
  | on : Sent 0xe007f001
  | off : Sent 0xe0003001

end Lights

/-! ## What was set -/

/-- The brightness of the keyboard and the colors of its zones. -/
structure Look where
  brightness : U32
  color : Fin 3 → U32 × U32 × U32

namespace Look

def ofLeds (leds : ClevoLeds) : Look where
  brightness := (leds.zones 0).brightness
  color zone :=
    ((leds.zones zone).red, (leds.zones zone).green, (leds.zones zone).blue)

/-- The LED device of a zone. -/
def zone (look : Look) (zone : Fin 3) : ClevoMcled where
  brightness := look.brightness
  red := (look.color zone).1
  green := (look.color zone).2.1
  blue := (look.color zone).2.2

/-- The color of a zone, scaled for the keyboards that need it. -/
def shown (type : U8) (look : Look) (zone : Fin 3) : Rgb :=
  colorScaling type ((look.color zone).1.setWidth 8)
    ((look.color zone).2.1.setWidth 8) ((look.color zone).2.2.setWidth 8)

def setColor (look : Look) (zone : Fin 3) (color : U32 × U32 × U32) :
    Look :=
  { look with color := Function.update look.color zone color }

end Look

/-- The zones that a keyboard has. -/
def hasZone (type : U8) (zone : Fin 3) : Prop :=
  type = clevoKbBacklightType3ZoneRgb ∨ zone = 0

/-- The LED devices store the look, and the keyboard shows it in some
zones. -/
structure Shows (type : U8) (look : Look) (zones : Fin 3 → Prop)
    (leds : ClevoLeds) (lights : Lights) : Prop where
  isType : leds.backlightType = type
  stored : leds.zones = look.zone
  brightness : lights.brightness = look.brightness.setWidth 8
  color : ∀ zone, zones zone → lights.color zone = look.shown type zone

theorem Shows.mono {type : U8} {look : Look} {zones fewer : Fin 3 → Prop}
    {leds : ClevoLeds} {lights : Lights}
    (shows : Shows type look zones leds lights)
    (implies : ∀ zone, fewer zone → zones zone) :
    Shows type look fewer leds lights :=
  ⟨shows.isType, shows.stored, shows.brightness,
    fun zone isFewer => shows.color zone (implies zone isFewer)⟩

/-- The LED devices say what was set. -/
theorem Shows.ofLeds_eq {type : U8} {look : Look} {zones : Fin 3 → Prop}
    {leds : ClevoLeds} {lights : Lights}
    (shows : Shows type look zones leds lights) : Look.ofLeds leds = look := by
  rw [Look.ofLeds, shows.stored]
  rfl

instance (type : U8) (zone : Fin 3) : Decidable (hasZone type zone) :=
  inferInstanceAs (Decidable (_ ∨ _))

/-- Something that happens: a store to an LED device, the key that changes
the color, or a sleep in which the firmware changes anything. -/
inductive LedOp (σ : Type) where
  | brightness (zone : Fin 3) (value : U32)
  | multiIntensity (zone : Fin 3) (red green blue : U32)
  | cycleColor
  | sleep (forget : σ → σ)

namespace LedOp

variable {σ : Type}

/-- A store goes to an LED device that the keyboard has. -/
def OnDevice (type : U8) : LedOp σ → Prop
  | .brightness zone _ => hasZone type zone
  | .multiIntensity zone _ _ _ => hasZone type zone
  | .cycleColor => True
  | .sleep _ => True

/-- The LED devices, `whole_kbd_color` and the firmware afterwards. -/
def run (firmware : Firmware σ) (interface : ClevoInterface)
    (machine : ClevoLeds × U8 × σ) : LedOp σ → ClevoLeds × U8 × σ
  | .brightness zone value =>
      let stored :=
        (storeBrightness (some interface) machine.1 zone value).run firmware
          machine.2.2
      (stored.1, machine.2.1, stored.2)
  | .multiIntensity zone red green blue =>
      let stored :=
        (storeMultiIntensity (some interface) machine.1 zone red green
          blue).run firmware machine.2.2
      (stored.1, machine.2.1, stored.2)
  | .cycleColor =>
      let cycled :=
        (setNextColorWholeKb (some interface) machine.1 machine.2.1).run
          firmware machine.2.2
      (cycled.1.1, cycled.1.2, cycled.2)
  | .sleep forget =>
      let suspended :=
        (clevoKeyboardSuspend (some interface) machine.1).run firmware
          machine.2.2
      let resumed :=
        (clevoKeyboardResume (some interface) machine.1).run firmware
          (forget suspended.2)
      (resumed.1.2, machine.2.1, resumed.2)

/-- Red, green and blue of a color code. -/
def components (color : U32) : U32 × U32 × U32 :=
  ((color >>> 16) &&& 0xff, (color >>> 8) &&& 0xff, color &&& 0xff)

/-- What is set afterwards, with the index of the last color of the list. -/
def set (type : U8) (look : Look × U8) : LedOp σ → Look × U8
  | .brightness _ value =>
      ({ look.1 with brightness := if value ≤ 0xff then value else 0xff },
        look.2)
  | .multiIntensity zone red green blue =>
      (look.1.setColor zone (red, green, blue), look.2)
  | .cycleColor =>
      ({ look.1 with
          color := fun zone =>
            if hasZone type zone then components (nextColor look.2)
            else look.1.color zone },
        BitVec.ofNat 8 (nextColorId look.2))
  | .sleep _ => look

end LedOp

/-- A zone is colored as by a store to its LED device. -/
theorem setZoneColor_eq (activeClevoInterface : Option ClevoInterface)
    (leds : ClevoLeds) (zone : Fin 3) (color : U32) :
    setZoneColor activeClevoInterface leds zone color =
      storeMultiIntensity activeClevoInterface leds zone
        (LedOp.components color).1 (LedOp.components color).2.1
        (LedOp.components color).2.2 :=
  rfl

section Firmware

variable {σ : Type} (firmware : Firmware σ) (interface : ClevoInterface)
  (lights : σ → Lights)

/-- The firmware takes the commands for the lights, as the driver sends
them. -/
structure DrivesLights : Prop extends Ready firmware interface lights where
  setsLights : ∀ arg, Lights.Sent arg → ∀ state,
    (∃ value, (evaluation firmware interface 0x67 arg state).1 =
      some (.integer value)) ∧
    lights (evaluation firmware interface 0x67 arg state).2 =
      (lights state).execute arg

variable {firmware interface lights}
  (drives : DrivesLights firmware interface lights)

section Calls

include drives

theorem DrivesLights.run_setKbRgbLeds {arg : U32} (sent : Lights.Sent arg)
    (state : σ) :
    ((clevoEvaluateMethod (some interface) 0x67 arg).run firmware
        state).1.1 = 0 ∧
      lights
          ((clevoEvaluateMethod (some interface) 0x67 arg).run firmware
            state).2 =
        (lights state).execute arg := by
  obtain ⟨reached, same, ends, status⟩ :=
    drives.toReady.run_clevoEvaluateMethod 0x67 arg state
  obtain ⟨⟨value, isInteger⟩, executed⟩ :=
    drives.setsLights arg sent reached
  constructor
  · rw [status value isInteger]
  · rw [ends, executed, same]

theorem DrivesLights.run_setRgbBrightness (brightness : U8) (state : σ) :
    let called :=
      (clevoEvaluateSetRgbBrightness (some interface) brightness).run
        firmware state
    called.1 = 0 ∧
      lights called.2 = { lights state with brightness := brightness } := by
  obtain ⟨status, executed⟩ :=
    drives.run_setKbRgbLeds (.brightness brightness) state
  rw [Lights.execute_brightness] at executed
  simp only [clevoEvaluateSetRgbBrightness, Program.run_map]
  exact ⟨status, executed⟩

theorem DrivesLights.lights_setRgbColor (zone : Fin 3) (red green blue : U8)
    (state : σ) :
    lights
        ((clevoEvaluateSetRgbColor (some interface) (ledChannel zone)
          ((red.setWidth 32 <<< 16) + (green.setWidth 32 <<< 8) +
            blue.setWidth 32)).run firmware state).2 =
      { lights state with
        color :=
          Function.update (lights state).color zone (red, green, blue) } := by
  obtain ⟨-, executed⟩ :=
    drives.run_setKbRgbLeds (.color zone red green blue) state
  rw [Lights.execute_colorWord] at executed
  simp only [clevoEvaluateSetRgbColor, Program.run_map]
  exact executed

theorem DrivesLights.lights_setKeyboardStatus (enabled : Bool) (state : σ) :
    lights
        ((clevoEvaluateSetKeyboardStatus (some interface)
          (if enabled = true then 1 else 0)).run firmware state).2 =
      { lights state with enabled } := by
  cases enabled with
  | true =>
      obtain ⟨-, executed⟩ := drives.run_setKbRgbLeds .on state
      rw [(Lights.execute_status _).1] at executed
      simp only [clevoEvaluateSetKeyboardStatus, Program.run_map]
      exact executed
  | false =>
      obtain ⟨-, executed⟩ := drives.run_setKbRgbLeds .off state
      rw [(Lights.execute_status _).2] at executed
      simp only [clevoEvaluateSetKeyboardStatus, Program.run_map]
      exact executed

/-- A store that leaves a zone with a color of the look shows the zone, and
the other zones as before. -/
theorem shows_clevoLedsSetBrightnessMc {type : U8} (look : Look)
    (zones : Fin 3 → Prop) {leds : ClevoLeds} (zone : Fin 3) (state : σ)
    (isType : leds.backlightType = type)
    (colors : ∀ zone,
      { leds.zones zone with brightness := look.brightness } =
        look.zone zone)
    (others : ∀ other, zones other → other ≠ zone →
      (lights state).color other = look.shown type other) :
    let reached :=
      (clevoLedsSetBrightnessMc (some interface) leds zone
        look.brightness).run firmware state
    Shows type look (fun other => other = zone ∨ zones other) reached.1
        (lights reached.2) ∧
      (lights reached.2).enabled = (lights state).enabled := by
  obtain ⟨accepted, bright⟩ :=
    drives.run_setRgbBrightness (look.brightness.setWidth 8) state
  have sameZone := colors zone
  have sameRed : (leds.zones zone).red = (look.color zone).1 :=
    congrArg ClevoMcled.red sameZone
  have sameGreen : (leds.zones zone).green = (look.color zone).2.1 :=
    congrArg ClevoMcled.green sameZone
  have sameBlue : (leds.zones zone).blue = (look.color zone).2.2 :=
    congrArg ClevoMcled.blue sameZone
  have colored :=
    drives.lights_setRgbColor zone (look.shown type zone).1
      (look.shown type zone).2.1 (look.shown type zone).2.2
      ((clevoEvaluateSetRgbBrightness (some interface)
        (look.brightness.setWidth 8)).run firmware state).2
  have runs :
      (clevoLedsSetBrightnessMc (some interface) leds zone
          look.brightness).run firmware state =
        ({ leds with zones := look.zone },
          ((clevoEvaluateSetRgbColor (some interface) (ledChannel zone)
            (((look.shown type zone).1.setWidth 32 <<< 16) +
              ((look.shown type zone).2.1.setWidth 32 <<< 8) +
              (look.shown type zone).2.2.setWidth 32)).run firmware
            ((clevoEvaluateSetRgbBrightness (some interface)
              (look.brightness.setWidth 8)).run firmware state).2).2) := by
    rw [clevoLedsSetBrightnessMc, Program.run_bind, Program.run_ite,
      if_neg (not_not.mpr accepted), Program.run_bind, Program.run_pure,
      isType, sameRed, sameGreen, sameBlue]
    refine Prod.ext ?_ rfl
    simp only [colors]
  rw [runs]
  rw [bright] at colored
  refine ⟨⟨isType, rfl, ?_, ?_⟩, ?_⟩
  · rw [colored]
  · intro other shown
    rw [colored]
    by_cases same : other = zone
    · subst same
      exact Function.update_self ..
    · rcases shown with isZone | before
      · exact absurd isZone same
      · exact (Function.update_of_ne same ..).trans (others other before same)
  · rw [colored]

section Steps

variable {type : U8} {look : Look} {zones : Fin 3 → Prop} {leds : ClevoLeds}
  {state : σ}

theorem shows_storeMultiIntensity
    (shows : Shows type look zones leds (lights state)) (zone : Fin 3)
    (red green blue : U32) :
    let reached :=
      (storeMultiIntensity (some interface) leds zone red green blue).run
        firmware state
    Shows type (look.setColor zone (red, green, blue))
        (fun other => other = zone ∨ zones other) reached.1
        (lights reached.2) ∧
      (lights reached.2).enabled = (lights state).enabled := by
  have brightness : (leds.zones zone).brightness = look.brightness := by
    rw [shows.stored]
    rfl
  rw [storeMultiIntensity, brightness]
  refine
    shows_clevoLedsSetBrightnessMc drives
      (look.setColor zone (red, green, blue)) zones zone state shows.isType
      ?_ ?_
  · intro other
    by_cases same : other = zone
    · subst same
      simp [Look.zone, Look.setColor]
    · simp [Look.zone, Look.setColor, same, shows.stored]
  · intro other shown different
    rw [shows.color other shown]
    simp [Look.shown, Look.setColor, different]

theorem shows_storeBrightness
    (shows : Shows type look zones leds (lights state)) (zone : Fin 3)
    (value : U32) :
    let brightness : U32 := if value ≤ 0xff then value else 0xff
    let reached :=
      (storeBrightness (some interface) leds zone value).run firmware state
    Shows type { look with brightness }
        (fun other => other = zone ∨ zones other) reached.1
        (lights reached.2) ∧
      (lights reached.2).enabled = (lights state).enabled := by
  intro brightness
  refine
    shows_clevoLedsSetBrightnessMc drives { look with brightness } zones
      zone state shows.isType ?_ ?_
  · intro other
    by_cases same : other = zone
    · subst same
      simp [Look.zone, shows.stored]
    · simp [Look.zone, same, shows.stored]
  · intro other shown _
    exact shows.color other shown

/-- A zone that stores the look is shown once it is restored. -/
theorem shows_restoreZone
    (shows : Shows type look zones leds (lights state)) (zone : Fin 3) :
    let reached := (restoreZone (some interface) leds zone).run firmware state
    Shows type look (fun other => other = zone ∨ zones other) reached.1
        (lights reached.2) ∧
      (lights reached.2).enabled = (lights state).enabled := by
  have brightness : (leds.zones zone).brightness = look.brightness := by
    rw [shows.stored]
    rfl
  rw [restoreZone, brightness]
  refine
    shows_clevoLedsSetBrightnessMc drives look zones zone state
      shows.isType ?_ fun other shown _ => shows.color other shown
  intro other
  rw [shows.stored]
  rfl

/-- From any LED devices the first zone that is restored gives its brightness
to all. -/
theorem shows_restoreZone_first (leds : ClevoLeds) (state : σ) :
    let reached := (restoreZone (some interface) leds 0).run firmware state
    Shows leds.backlightType (Look.ofLeds leds) (fun other => other = 0)
        reached.1 (lights reached.2) ∧
      (lights reached.2).enabled = (lights state).enabled := by
  have restored :=
    shows_clevoLedsSetBrightnessMc drives (Look.ofLeds leds)
      (fun _ => False) 0 state rfl (fun _ => rfl) fun _ shown _ => shown.elim
  simp only [or_false] at restored
  exact restored

/-- All zones of the keyboard show the restored look. -/
theorem shows_clevoLedsRestoreStateExtern (leds : ClevoLeds) (state : σ)
    (rgb : isRgb leds.backlightType) :
    let reached :=
      (clevoLedsRestoreStateExtern (some interface) leds).run firmware state
    Shows leds.backlightType (Look.ofLeds leds) (hasZone leds.backlightType)
      reached.1 (lights reached.2) := by
  have notFixed : leds.backlightType ≠ clevoKbBacklightTypeFixedColor := by
    intro fixed
    rw [fixed] at rgb
    exact absurd rgb (by decide)
  obtain ⟨first, -⟩ := shows_restoreZone_first drives leds state
  rw [clevoLedsRestoreStateExtern, if_neg notFixed]
  by_cases oneZone : leds.backlightType = clevoKbBacklightType1ZoneRgb
  · rw [if_pos oneZone]
    refine first.mono fun zone has => has.resolve_left ?_
    rw [oneZone]
    decide
  · have threeZone := rgb.resolve_left oneZone
    obtain ⟨second, -⟩ := shows_restoreZone drives first 1
    obtain ⟨third, -⟩ := shows_restoreZone drives second 2
    rw [if_neg oneZone, if_pos threeZone]
    simp only [Program.run_bind]
    refine third.mono fun zone _ => ?_
    omega

/-- A resume brings back what the LED devices say, from anything. -/
theorem shows_clevoKeyboardResume (leds : ClevoLeds) (state : σ)
    (rgb : isRgb leds.backlightType) :
    let reached :=
      (clevoKeyboardResume (some interface) leds).run firmware state
    Shows leds.backlightType (Look.ofLeds leds) (hasZone leds.backlightType)
        reached.1.2 (lights reached.2) ∧
      (lights reached.2).enabled = true := by
  have restored :=
    shows_clevoLedsRestoreStateExtern drives leds
      ((clevoEvaluateMethod (some interface) 0x46 0).run firmware state).2
      rgb
  generalize reachedEq : (clevoLedsRestoreStateExtern (some interface)
    leds).run firmware
      ((clevoEvaluateMethod (some interface) 0x46 0).run firmware
        state).2 = reached at restored
  have stillRgb : isRgb reached.1.backlightType := by
    rw [restored.isType]
    exact rgb
  have enabled := drives.lights_setKeyboardStatus true reached.2
  simp only [if_true] at enabled
  simp only [clevoKeyboardResume, clevoLedsResume, Program.run_bind,
    Program.run_pure, reachedEq, if_pos stillRgb, enabled]
  exact
    ⟨⟨restored.isType, restored.stored, restored.brightness,
      restored.color⟩, trivial⟩

/-- The color key colors all zones of the keyboard. -/
theorem shows_clevoLedsSetColorExtern (rgb : isRgb type)
    (shows : Shows type look (hasZone type) leds (lights state))
    (color : U32) :
    let reached :=
      (clevoLedsSetColorExtern (some interface) leds color).run firmware
        state
    Shows type
        { look with
          color := fun zone =>
            if hasZone type zone then LedOp.components color
            else look.color zone }
        (hasZone type) reached.1 (lights reached.2) ∧
      (lights reached.2).enabled = (lights state).enabled := by
  obtain ⟨first, firstEnabled⟩ :=
    shows_storeMultiIntensity drives shows 0 (LedOp.components color).1
      (LedOp.components color).2.1 (LedOp.components color).2.2
  rw [clevoLedsSetColorExtern, shows.isType]
  by_cases oneZone : type = clevoKbBacklightType1ZoneRgb
  · have sameLook :
        { look with
          color := fun zone =>
            if hasZone type zone then LedOp.components color
            else look.color zone } =
          look.setColor 0 (LedOp.components color) := by
      rw [Look.setColor, oneZone]
      congr 1
      funext zone
      have onlyFirst : hasZone clevoKbBacklightType1ZoneRgb zone ↔
          zone = 0 :=
        or_iff_right (by decide)
      by_cases isFirst : zone = 0
      · rw [if_pos (onlyFirst.mpr isFirst), isFirst, Function.update_self]
      · rw [if_neg (mt onlyFirst.mp isFirst), Function.update_of_ne isFirst]
    rw [if_pos oneZone, sameLook, setZoneColor_eq]
    exact ⟨first.mono fun zone has => Or.inr has, firstEnabled⟩
  · have threeZone := rgb.resolve_left oneZone
    obtain ⟨second, secondEnabled⟩ :=
      shows_storeMultiIntensity drives first 1 (LedOp.components color).1
        (LedOp.components color).2.1 (LedOp.components color).2.2
    obtain ⟨third, thirdEnabled⟩ :=
      shows_storeMultiIntensity drives second 2 (LedOp.components color).1
        (LedOp.components color).2.1 (LedOp.components color).2.2
    have sameLook :
        { look with
          color := fun zone =>
            if hasZone type zone then LedOp.components color
            else look.color zone } =
          ((look.setColor 0 (LedOp.components color)).setColor 1
            (LedOp.components color)).setColor 2
            (LedOp.components color) := by
      simp only [Look.setColor, hasZone, threeZone, true_or, if_true]
      congr 1
      funext zone
      match zone with
      | 0 => rfl
      | 1 => rfl
      | 2 => rfl
    rw [if_neg oneZone, if_pos threeZone, sameLook]
    simp only [Program.run_bind, setZoneColor_eq]
    exact
      ⟨third.mono fun zone has => Or.inr (Or.inr (Or.inr has)),
        thirdEnabled.trans (secondEnabled.trans firstEnabled)⟩

end Steps

/-- One thing that happens keeps what is shown and what was set the same. -/
theorem shows_ledOp {type : U8} (rgb : isRgb type) (op : LedOp σ)
    (onDevice : op.OnDevice type) {look : Look × U8}
    {machine : ClevoLeds × U8 × σ}
    (shows : Shows type look.1 (hasZone type) machine.1 (lights machine.2.2))
    (enabled : (lights machine.2.2).enabled = true)
    (sameColor : machine.2.1 = look.2) :
    let reached := op.run firmware interface machine
    Shows type (op.set type look).1 (hasZone type) reached.1
        (lights reached.2.2) ∧
      (lights reached.2.2).enabled = true ∧
      reached.2.1 = (op.set type look).2 := by
  cases op with
  | brightness zone value =>
      obtain ⟨stored, same⟩ :=
        shows_storeBrightness drives shows zone value
      exact
        ⟨stored.mono fun _ has => Or.inr has, same.trans enabled, sameColor⟩
  | multiIntensity zone red green blue =>
      obtain ⟨stored, same⟩ :=
        shows_storeMultiIntensity drives shows zone red green blue
      exact
        ⟨stored.mono fun _ has => Or.inr has, same.trans enabled, sameColor⟩
  | cycleColor =>
      obtain ⟨colored, same⟩ :=
        shows_clevoLedsSetColorExtern drives rgb shows (nextColor look.2)
      simp only [LedOp.run, LedOp.set, setNextColorWholeKb, Program.run_bind,
        Program.run_pure, sameColor]
      exact ⟨colored, same.trans enabled, trivial⟩
  | sleep forget =>
      have rgbLeds : isRgb machine.1.backlightType := by
        rw [shows.isType]
        exact rgb
      obtain ⟨resumed, on⟩ :=
        shows_clevoKeyboardResume drives machine.1
          (forget
            ((clevoKeyboardSuspend (some interface) machine.1).run firmware
              machine.2.2).2) rgbLeds
      rw [shows.ofLeds_eq, shows.isType] at resumed
      exact ⟨resumed, on, sameColor⟩

end Calls

/-- From a resume on, after any stores, color keys and sleeps in which the
firmware forgets anything, the keyboard is on and shows in all its zones what
was set, and the LED devices say the same. -/
theorem shows_after_resume (leds : ClevoLeds) (wholeKbdColor : U8)
    (state : σ) (rgb : isRgb leds.backlightType) (ops : List (LedOp σ))
    (onDevice : ∀ op ∈ ops, op.OnDevice leds.backlightType)
    (drives : DrivesLights firmware interface lights) :
    let resumed :=
      (clevoKeyboardResume (some interface) leds).run firmware state
    let reached :=
      ops.foldl (LedOp.run firmware interface)
        (resumed.1.2, wholeKbdColor, resumed.2)
    let look :=
      ops.foldl (LedOp.set leds.backlightType)
        (Look.ofLeds leds, wholeKbdColor)
    Shows leds.backlightType look.1 (hasZone leds.backlightType) reached.1
        (lights reached.2.2) ∧
      (lights reached.2.2).enabled = true ∧ reached.2.1 = look.2 := by
  have kept (machine : ClevoLeds × U8 × σ) (look : Look × U8)
      (shows : Shows leds.backlightType look.1
        (hasZone leds.backlightType) machine.1 (lights machine.2.2))
      (enabled : (lights machine.2.2).enabled = true)
      (sameColor : machine.2.1 = look.2) :
      let reached := ops.foldl (LedOp.run firmware interface) machine
      let set := ops.foldl (LedOp.set leds.backlightType) look
      Shows leds.backlightType set.1 (hasZone leds.backlightType) reached.1
          (lights reached.2.2) ∧
        (lights reached.2.2).enabled = true ∧ reached.2.1 = set.2 := by
    induction ops generalizing machine look with
    | nil =>
        exact ⟨shows, enabled, sameColor⟩
    | cons op rest inductionHypothesis =>
        obtain ⟨showsThen, enabledThen, sameColorThen⟩ :=
          shows_ledOp drives rgb op (onDevice op List.mem_cons_self) shows
            enabled sameColor
        exact
          inductionHypothesis
            (fun later member =>
              onDevice later (List.mem_cons_of_mem op member))
            _ _ showsThen enabledThen sameColorThen
  obtain ⟨shows, enabled⟩ := shows_clevoKeyboardResume drives leds state rgb
  exact kept _ _ shows enabled rfl

end Firmware

/-- Firmware whose state is what the keyboard shows, over WMI. -/
def lightsFirmware : Firmware Lights
  | .wmiEvaluateMethod methodId arg, lights =>
      if methodId = 0x67 then
        (.success (some (.integer 0)), lights.execute arg)
      else (.success (some (.integer 0)), lights)
  | .acpiEvaluateDsm _ _, lights => (none, lights)
  | .activeDriverData, lights => (false, lights)
  | .acpiDeviceHandle, lights => (false, lights)
  | .strayObject, lights => (.other, lights)
  | .strayByte, lights => (0, lights)
  | .acpiFree _, lights => ((), lights)

theorem lightsFirmware_drivesLights :
    DrivesLights lightsFirmware .wmi id where
  driverData := nofun
  deviceHandle := nofun
  keepsUncalled request lights notEvaluated := by
    cases request with
    | wmiEvaluateMethod methodId arg => cases notEvaluated
    | acpiEvaluateDsm function argument => cases notEvaluated
    | activeDriverData => rfl
    | acpiDeviceHandle => rfl
    | strayObject => rfl
    | strayByte => rfl
    | acpiFree object => rfl
  setsLights arg _ lights := ⟨⟨0, rfl⟩, rfl⟩

/-- Three zones, of which one is colored, and a sleep that switches all
off. -/
theorem shows_after_resume_threeZones :
    let off : Lights := ⟨false, 0, fun _ => (0, 0, 0)⟩
    let leds : ClevoLeds := { backlightType := clevoKbBacklightType3ZoneRgb }
    let resumed :=
      (clevoKeyboardResume (some .wmi) leds).run lightsFirmware off
    let reached :=
      [ .brightness 0 0x80, .multiIntensity 1 0xff 0x10 0,
        .sleep fun _ => off ].foldl (LedOp.run lightsFirmware .wmi)
        (resumed.1.2, 7, resumed.2)
    Shows clevoKbBacklightType3ZoneRgb
      { brightness := 0x80
        color :=
          Function.update (fun _ => (0xff, 0xff, 0xff)) 1 (0xff, 0x10, 0) }
      (hasZone clevoKbBacklightType3ZoneRgb) reached.1 (id reached.2.2) := by
  intro off leds resumed reached
  have shows :=
    shows_after_resume leds 7 off (Or.inr rfl)
      [ .brightness 0 0x80, .multiIntensity 1 0xff 0x10 0,
        .sleep fun _ => off ]
      (by
        intro op member
        simp only [List.mem_cons, List.not_mem_nil, or_false] at member
        rcases member with rfl | rfl | rfl
        · exact Or.inl rfl
        · exact Or.inl rfl
        · trivial) lightsFirmware_drivesLights
  exact shows.1

end TuxedoDrivers.Clevo
