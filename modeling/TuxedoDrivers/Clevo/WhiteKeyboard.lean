import TuxedoDrivers.Clevo.LedRuns
import TuxedoDrivers.Interaction.Mirror

/-!
# The brightness of a white keyboard

The firmware changes the brightness of a white keyboard when its keys are
pressed, and sends an event that does not say to what.  User space sets it by
the LED device, and the driver reads it for each event.  So the LED device is
right whenever no event waits, whatever came between an event and its
handling.
-/

namespace TuxedoDrivers.Clevo

open Interaction

/-! ## The driver -/

section Driver

variable (activeClevoInterface : Option ClevoInterface)

/-- `result` is what the local variable of this name holds at first. -/
def clevoLedsNotifyBrightnessChangeExtern (leds : ClevoLeds)
    (result : U32) : Call ClevoLeds := do
  if leds.backlightType = clevoKbBacklightTypeFixedColor then
    let called ← clevoEvaluateMethod activeClevoInterface 0x3d 0
    return { leds with brightness := called.2.getD result }
  else
    return leds

/-- The LED core limits what is stored. -/
def limitedBrightness (leds : ClevoLeds) (value : U32) : U32 :=
  if value ≤ leds.maxBrightness then value else leds.maxBrightness

/-- A store to `brightness` of the white keyboard: the LED core keeps what
is stored before it calls the driver. -/
def storeWhiteBrightness (leds : ClevoLeds) (value : U32) :
    Call ClevoLeds :=
  clevoLedsSetBrightness activeClevoInterface
    { leds with brightness := limitedBrightness leds value }
    (limitedBrightness leds value)

end Driver

/-! ## The machine -/

/-- The LED devices, the number of events that wait and the firmware. -/
structure WhiteMachine (σ : Type) where
  leds : ClevoLeds
  events : Nat
  state : σ

/-- Something that happens: a store to the LED device, something that the
firmware does by itself with an event after it, the handling of an event, or
a sleep in which the firmware changes anything. -/
inductive WhiteOp (σ : Type) where
  | store (value : U32)
  | press (change : σ → σ)
  | handle (result : U32)
  | sleep (forget : σ → σ)

def WhiteOp.run {σ : Type} (firmware : Firmware σ)
    (interface : ClevoInterface) (op : WhiteOp σ)
    (machine : WhiteMachine σ) : WhiteMachine σ :=
  match op with
  | .store value =>
      let stored :=
        (storeWhiteBrightness (some interface) machine.leds value).run
          firmware machine.state
      { machine with leds := stored.1, state := stored.2 }
  | .press change =>
      { machine with
        events := machine.events + 1
        state := change machine.state }
  | .handle result =>
      match machine.events with
      | 0 => machine
      | events + 1 =>
          let handled :=
            (clevoLedsNotifyBrightnessChangeExtern (some interface)
              machine.leds result).run firmware machine.state
          ⟨handled.1, events, handled.2⟩
  | .sleep forget =>
      let suspended :=
        (clevoKeyboardSuspend (some interface) machine.leds).run firmware
          machine.state
      let resumed :=
        (clevoKeyboardResume (some interface) machine.leds).run firmware
          (forget suspended.2)
      { machine with leds := resumed.1.2, state := resumed.2 }

/-- A white keyboard, with levels that are bytes. -/
structure White (leds : ClevoLeds) : Prop where
  isType : leds.backlightType = clevoKbBacklightTypeFixedColor
  max : leds.maxBrightness ≤ 0xff
  brightness : leds.brightness ≤ 0xff

theorem White.limited_le {leds : ClevoLeds} (white : White leds)
    (value : U32) : limitedBrightness leds value ≤ 0xff := by
  have max := white.max
  rw [limitedBrightness]
  split
  case isTrue within => exact BitVec.le_trans within max
  case isFalse => exact max

theorem setWidth_setWidth_of_le {brightness : U32}
    (isByte : brightness ≤ 0xff) :
    (brightness.setWidth 8).setWidth 32 = brightness := by
  have upper : brightness.toNat ≤ 255 := isByte
  apply BitVec.eq_of_toNat_eq
  rw [BitVec.toNat_setWidth, BitVec.toNat_setWidth]
  omega

section Firmware

variable {σ : Type} (firmware : Firmware σ) (interface : ClevoInterface)
  (shown : σ → U8)

/-- The firmware takes the command for the brightness and says what it
is. -/
structure DrivesWhite : Prop extends Ready firmware interface shown where
  sets : ∀ (arg : U32) state,
    (∃ value, (evaluation firmware interface 0x27 arg state).1 =
      some (.integer value)) ∧
    shown (evaluation firmware interface 0x27 arg state).2 =
      arg.setWidth 8
  gets : ∀ (arg : U32) state,
    (evaluation firmware interface 0x3d arg state).1 =
      some (.integer ((shown state).setWidth 64)) ∧
    shown (evaluation firmware interface 0x3d arg state).2 = shown state

variable {firmware interface shown}
  (drives : DrivesWhite firmware interface shown)

include drives

/-- The keyboard is set and the LED device says so. -/
theorem DrivesWhite.run_clevoLedsSetBrightness (leds : ClevoLeds)
    (brightness : U32) (state : σ) :
    let called :=
      (clevoLedsSetBrightness (some interface) leds brightness).run firmware
        state
    called.1 = { leds with brightness := brightness } ∧
      shown called.2 = brightness.setWidth 8 := by
  obtain ⟨reached, -, ends, status⟩ :=
    drives.toReady.run_clevoEvaluateMethod 0x27
      ((brightness.setWidth 8).setWidth 32) state
  obtain ⟨⟨value, isInteger⟩, executed⟩ :=
    drives.sets ((brightness.setWidth 8).setWidth 32) reached
  have accepted := status value isInteger
  simp only [clevoLedsSetBrightness, clevoEvaluateSetWhiteBrightness,
    Program.run_bind, Program.run_map, Program.run_pure, accepted, ne_eq,
    not_true_eq_false, if_false]
  constructor
  · trivial
  · rw [ends, executed]
    ext position bound
    simp

/-- The LED device says what the keyboard shows. -/
theorem DrivesWhite.run_clevoLedsNotifyBrightnessChangeExtern
    {leds : ClevoLeds}
    (isType : leds.backlightType = clevoKbBacklightTypeFixedColor)
    (result : U32) (state : σ) :
    let called :=
      (clevoLedsNotifyBrightnessChangeExtern (some interface) leds
        result).run firmware state
    called.1 = { leds with brightness := (shown state).setWidth 32 } ∧
      shown called.2 = shown state := by
  obtain ⟨reached, same, ends, status⟩ :=
    drives.toReady.run_clevoEvaluateMethod 0x3d 0 state
  obtain ⟨isInteger, unchanged⟩ := drives.gets 0 reached
  have answered := status _ isInteger
  simp only [clevoLedsNotifyBrightnessChangeExtern, if_pos isType,
    Program.run_bind, Program.run_pure, answered, Option.getD_some, ends,
    unchanged, same, and_true]
  congr 1
  ext position bound
  simp

/-- A resume sets the keyboard to what the LED device says. -/
theorem DrivesWhite.run_clevoKeyboardResume {leds : ClevoLeds}
    (isType : leds.backlightType = clevoKbBacklightTypeFixedColor)
    (state : σ) :
    let resumed :=
      (clevoKeyboardResume (some interface) leds).run firmware state
    resumed.1.2 = leds ∧ shown resumed.2 = leds.brightness.setWidth 8 := by
  have notRgb : ¬ isRgb leds.backlightType := by
    rw [isType]
    decide
  obtain ⟨same, set⟩ :=
    drives.run_clevoLedsSetBrightness leds leds.brightness
      ((clevoEvaluateMethod (some interface) 0x46 0).run firmware state).2
  have stillNotRgb :
      ¬ isRgb { leds with brightness := leds.brightness }.backlightType :=
    notRgb
  simp only [clevoKeyboardResume, clevoLedsRestoreStateExtern,
    clevoLedsResume, if_pos isType, Program.run_bind, Program.run_pure,
    same, if_neg stillNotRgb, set, and_self]

/-! ## What happens for the copy -/

omit drives in
/-- The brightness of the keyboard, that of the LED device and the events. -/
def WhiteMachine.mirror (shown : σ → U8) (machine : WhiteMachine σ) :
    Mirror U32 Unit where
  device := (shown machine.state).setWidth 32
  copy := machine.leds.brightness
  waiting := List.replicate machine.events ()

omit drives in
def WhiteOp.mirrorStep (shown : σ → U8) (op : WhiteOp σ)
    (machine : WhiteMachine σ) : MirrorStep U32 :=
  match op with
  | .store value => .set (limitedBrightness machine.leds value)
  | .press change => .change ((shown (change machine.state)).setWidth 32)
  | .handle _ => .handle
  | .sleep _ => .set machine.leds.brightness

theorem white_run (op : WhiteOp σ) {machine : WhiteMachine σ}
    (white : White machine.leds) :
    White (op.run firmware interface machine).leds := by
  cases op with
  | store value =>
      obtain ⟨stored, -⟩ :=
        drives.run_clevoLedsSetBrightness
          { machine.leds with
            brightness := limitedBrightness machine.leds value }
          (limitedBrightness machine.leds value) machine.state
      simp only [WhiteOp.run, storeWhiteBrightness, stored]
      exact ⟨white.isType, white.max, white.limited_le value⟩
  | press change =>
      exact white
  | handle result =>
      cases waiting : machine.events with
      | zero =>
          simp only [WhiteOp.run, waiting]
          exact white
      | succ events =>
          obtain ⟨handled, -⟩ :=
            drives.run_clevoLedsNotifyBrightnessChangeExtern white.isType
              result machine.state
          simp only [WhiteOp.run, waiting, handled]
          refine ⟨white.isType, white.max, ?_⟩
          have upper := (shown machine.state).isLt
          change ((shown machine.state).setWidth 32).toNat ≤ 255
          rw [BitVec.toNat_setWidth]
          omega
  | sleep forget =>
      obtain ⟨same, -⟩ :=
        drives.run_clevoKeyboardResume white.isType
          (forget ((clevoKeyboardSuspend (some interface)
            machine.leds).run firmware machine.state).2)
      simp only [WhiteOp.run, same]
      exact white

/-- What happens to the machine is a step for the copy. -/
theorem mirror_whiteOp (op : WhiteOp σ) {machine : WhiteMachine σ}
    (white : White machine.leds) :
    (op.run firmware interface machine).mirror shown =
      Mirror.step (Handling.reading U32) (op.mirrorStep shown machine)
        (machine.mirror shown) := by
  cases op with
  | store value =>
      obtain ⟨stored, set⟩ :=
        drives.run_clevoLedsSetBrightness
          { machine.leds with
            brightness := limitedBrightness machine.leds value }
          (limitedBrightness machine.leds value) machine.state
      simp only [WhiteOp.run, storeWhiteBrightness, WhiteMachine.mirror,
        stored, set, setWidth_setWidth_of_le (white.limited_le value)]
      rfl
  | press change =>
      simp only [WhiteOp.run, WhiteMachine.mirror, List.replicate_succ',
        WhiteOp.mirrorStep, Mirror.step]
  | handle result =>
      cases waiting : machine.events with
      | zero =>
          simp only [WhiteOp.run, WhiteMachine.mirror, waiting]
          rfl
      | succ events =>
          obtain ⟨handled, unchanged⟩ :=
            drives.run_clevoLedsNotifyBrightnessChangeExtern white.isType
              result machine.state
          simp only [WhiteOp.run, WhiteMachine.mirror, waiting, handled,
            unchanged]
          rfl
  | sleep forget =>
      obtain ⟨same, set⟩ :=
        drives.run_clevoKeyboardResume white.isType
          (forget ((clevoKeyboardSuspend (some interface)
            machine.leds).run firmware machine.state).2)
      simp only [WhiteOp.run, WhiteMachine.mirror, same, set,
        setWidth_setWidth_of_le white.brightness]
      rfl

/-- From a resume on, whatever is stored and pressed, the LED device says
what the keyboard shows whenever no event waits. -/
theorem whiteBrightness_agrees (forget : σ → σ) (ops : List (WhiteOp σ))
    (machine : WhiteMachine σ) (white : White machine.leds) :
    let reached :=
      runSteps (WhiteOp.run firmware interface) (.sleep forget :: ops)
        machine
    White reached.leds ∧
      (reached.events = 0 →
        reached.leds.brightness = (shown reached.state).setWidth 32) := by
  intro reached
  have resumed :
      ((WhiteOp.sleep forget).run firmware interface machine).mirror shown
        |>.Agrees := by
    rw [mirror_whiteOp drives (.sleep forget) white]
    exact fun _ => rfl
  have holds : White reached.leds ∧ (reached.mirror shown).Agrees := by
    refine
      runSteps_preserves (WhiteOp.run firmware interface)
        (fun now => White now.leds ∧ (now.mirror shown).Agrees) ?_ ops
        ⟨white_run drives (.sleep forget) white, resumed⟩
    rintro op now ⟨nowWhite, agrees⟩
    refine ⟨white_run drives op nowWhite, ?_⟩
    rw [mirror_whiteOp drives op nowWhite]
    exact Mirror.agrees_step (op.mirrorStep shown now) agrees
  refine ⟨holds.1, fun noEvent => holds.2 ?_⟩
  change List.replicate reached.events () = []
  rw [noEvent]
  rfl

end Firmware

/-- Firmware whose state is the brightness, over WMI. -/
def whiteFirmware : Firmware U8
  | .wmiEvaluateMethod methodId arg, brightness =>
      if methodId = 0x27 then
        (.success (some (.integer 0)), arg.setWidth 8)
      else if methodId = 0x3d then
        (.success (some (.integer (brightness.setWidth 64))), brightness)
      else (.success (some (.integer 0)), brightness)
  | .acpiEvaluateDsm _ _, brightness => (none, brightness)
  | .activeDriverData, brightness => (false, brightness)
  | .acpiDeviceHandle, brightness => (false, brightness)
  | .strayObject, brightness => (.other, brightness)
  | .strayByte, brightness => (0, brightness)
  | .acpiFree _, brightness => ((), brightness)

theorem whiteFirmware_drivesWhite :
    DrivesWhite whiteFirmware .wmi id where
  driverData := nofun
  deviceHandle := nofun
  keepsUncalled request brightness notEvaluated := by
    cases request with
    | wmiEvaluateMethod methodId arg => cases notEvaluated
    | acpiEvaluateDsm function argument => cases notEvaluated
    | activeDriverData => rfl
    | acpiDeviceHandle => rfl
    | strayObject => rfl
    | strayByte => rfl
    | acpiFree object => rfl
  sets arg brightness := ⟨⟨0, rfl⟩, rfl⟩
  gets arg brightness := ⟨rfl, rfl⟩

/-- A store comes between a key and its event. -/
theorem whiteBrightness_agrees_overtaken :
    let leds : ClevoLeds :=
      { backlightType := clevoKbBacklightTypeFixedColor }
    let reached :=
      runSteps (WhiteOp.run whiteFirmware .wmi)
        [.sleep id, .press fun _ => 2, .store 1, .handle 0] ⟨leds, 0, 0⟩
    reached.leds.brightness = reached.state.setWidth 32 := by
  intro leds reached
  have white : White leds := ⟨rfl, by decide, by decide⟩
  exact
    (whiteBrightness_agrees whiteFirmware_drivesWhite id
      [.press fun _ => 2, .store 1, .handle 0] ⟨leds, 0, 0⟩ white).2 rfl

end TuxedoDrivers.Clevo
