import TuxedoDrivers.Interaction.Runs
import TuxedoDrivers.Uniwill.PlatformDriver
import TuxedoDrivers.Uniwill.SharedRegisters

/-!
# The LEDs of the lightbar

Three LEDs are one component of a color each and a fourth one is a bit that
starts an animation.  One function sets them all, told apart by their names;
the components that it is not called for are out of range, and so they are
not written.  The LEDs are a color and a switch that come to their values
independently, but that a color ends the animation.
-/

namespace TuxedoDrivers.Uniwill

open Interaction

/-! ## The driver -/

def uniwillReadLightbarRgb : Driver (U8 × U8 × U8) := do
  let red ← uniwillReadEcRam 0x0749
  let green ← uniwillReadEcRam 0x074a
  let blue ← uniwillReadEcRam 0x074b
  return (red.data, green.data, blue.data)

def uniwillReadLightbarAnimation : Driver Bool := do
  let lightbarAnimationData ← uniwillReadEcRam 0x0748
  return decide (lightbarAnimationData.data &&& 0x80 > 0)

/-- `brightness` is converted to a byte for a component. -/
def lightbarSetBlocking (name : String) (brightness : U32) :
    Driver Int := do
  let ledRed := strstr name uniwillLightbarLedNameRgbRed
  let ledGreen := strstr name uniwillLightbarLedNameRgbGreen
  let ledBlue := strstr name uniwillLightbarLedNameRgbBlue
  let ledAnimation := strstr name uniwillLightbarLedNameAnimation
  if ledRed = true ∨ ledGreen = true ∨ ledBlue = true then
    let value := brightness.setWidth 8
    if ledRed = true then uniwillWriteLightbarRgb value 0xff 0xff
    else if ledGreen = true then uniwillWriteLightbarRgb 0xff value 0xff
    else uniwillWriteLightbarRgb 0xff 0xff value
    -- Also make sure the animation is off
    uniwillWriteLightbarAnimation false
    return 0
  else if ledAnimation = true then
    uniwillWriteLightbarAnimation (decide (brightness = 1))
    return 0
  else
    return 0

def lightbarGet (name : String) : Driver U32 := do
  let ledRed := strstr name uniwillLightbarLedNameRgbRed
  let ledGreen := strstr name uniwillLightbarLedNameRgbGreen
  let ledBlue := strstr name uniwillLightbarLedNameRgbBlue
  let ledAnimation := strstr name uniwillLightbarLedNameAnimation
  if ledRed = true ∨ ledGreen = true ∨ ledBlue = true then
    let rgb ← uniwillReadLightbarRgb
    if ledRed = true then return rgb.1.setWidth 32
    else if ledGreen = true then return rgb.2.1.setWidth 32
    else return rgb.2.2.setWidth 32
  else if ledAnimation = true then
    let animationStatus ← uniwillReadLightbarAnimation
    return if animationStatus = true then 1 else 0
  else
    return 0

/-! ## The LEDs -/

inductive LightbarLed where
  | red
  | green
  | blue
  | animation
  deriving DecidableEq, Repr

namespace LightbarLed

def name : LightbarLed → String
  | .red => uniwillLightbarLedNameRgbRed
  | .green => uniwillLightbarLedNameRgbGreen
  | .blue => uniwillLightbarLedNameRgbBlue
  | .animation => uniwillLightbarLedNameAnimation

def maxBrightness : LightbarLed → U32
  | .animation => 1
  | _ => 0x24

/-- The LED core limits what is stored before it calls the driver. -/
def limited (led : LightbarLed) (value : U32) : U32 :=
  if value < led.maxBrightness then value else led.maxBrightness

/-- A store to `brightness`. -/
def setBrightness (led : LightbarLed) (value : U32) : Driver Int :=
  lightbarSetBlocking led.name (led.limited value)

/-- A read of `brightness`, for which the LED core asks the driver. -/
def getBrightness (led : LightbarLed) : Driver U32 :=
  lightbarGet led.name

/-- Every LED is found by its own name only. -/
theorem strstr_name (led other : LightbarLed) :
    strstr led.name other.name = decide (led = other) := by
  cases led <;> cases other <;> decide +kernel

theorem limited_le (led : LightbarLed) (value : U32) :
    (led.limited value).toNat ≤ led.maxBrightness.toNat := by
  unfold limited
  by_cases below : value < led.maxBrightness
  · have strictly : value.toNat < led.maxBrightness.toNat := below
    rw [if_pos below]
    omega
  · rw [if_neg below]

end LightbarLed

/-! ## The lightbar -/

structure Lightbar where
  red : U8
  green : U8
  blue : U8
  animation : Bool
  deriving DecidableEq, Repr

namespace Lightbar

def ofRam (ram : Ram) : Lightbar :=
  { red := ram 0x0749
    green := ram 0x074a
    blue := ram 0x074b
    animation := decide (ram 0x0748 &&& 0x80 > 0) }

def off : Lightbar :=
  { red := 0, green := 0, blue := 0, animation := false }

/-- A component ends the animation. -/
def store (lightbar : Lightbar) (led : LightbarLed) (value : U32) :
    Lightbar :=
  let brightness := led.limited value
  match led with
  | .red =>
      { lightbar with red := brightness.setWidth 8, animation := false }
  | .green =>
      { lightbar with green := brightness.setWidth 8, animation := false }
  | .blue =>
      { lightbar with blue := brightness.setWidth 8, animation := false }
  | .animation => { lightbar with animation := decide (brightness = 1) }

def brightness (lightbar : Lightbar) : LightbarLed → U32
  | .red => lightbar.red.setWidth 32
  | .green => lightbar.green.setWidth 32
  | .blue => lightbar.blue.setWidth 32
  | .animation => if lightbar.animation = true then 1 else 0

/-- The LED that is stored shows what it was limited to; of the others, the
animation has ended. -/
theorem brightness_store (lightbar : Lightbar) (led other : LightbarLed)
    (value : U32) :
    (lightbar.store led value).brightness other =
      if other = led then led.limited value
      else if other = .animation then 0
      else lightbar.brightness other := by
  have bounded := led.limited_le value
  have component : led.maxBrightness = 0x24 →
      ((led.limited value).setWidth 8).setWidth 32 = led.limited value := by
    intro most
    rw [most] at bounded
    have small : (led.limited value).toNat ≤ 36 := bounded
    apply BitVec.eq_of_toNat_eq
    rw [BitVec.toNat_setWidth, BitVec.toNat_setWidth]
    omega
  have switch : led.maxBrightness = 1 →
      (if decide (led.limited value = 1) = true then 1 else 0) =
        led.limited value := by
    intro most
    rw [most] at bounded
    by_cases isOne : led.limited value = 1
    · rw [isOne]
      rfl
    · have small : (led.limited value).toNat ≤ 1 := bounded
      have notOne : (led.limited value).toNat ≠ 1 := fun shape =>
        isOne (BitVec.eq_of_toNat_eq shape)
      have isZero : led.limited value = 0 :=
        BitVec.eq_of_toNat_eq (by change _ = 0; omega)
      rw [isZero]
      rfl
  cases led with
  | animation =>
      cases other with
      | animation => exact switch rfl
      | _ => rfl
  | _ => cases other <;> first | rfl | exact component rfl

/-- No component exceeds what a lightbar can show. -/
def InRange (lightbar : Lightbar) : Prop :=
  ∀ led : LightbarLed,
    (lightbar.brightness led).toNat ≤ led.maxBrightness.toNat

theorem InRange.store {lightbar : Lightbar} (inRange : lightbar.InRange)
    (led : LightbarLed) (value : U32) :
    (lightbar.store led value).InRange := by
  intro other
  rw [brightness_store]
  by_cases same : other = led
  · rw [if_pos same, same]
    exact led.limited_le value
  · rw [if_neg same]
    by_cases isAnimation : other = .animation
    · rw [if_pos isAnimation]
      exact Nat.zero_le _
    · rw [if_neg isAnimation]
      exact inRange other

/-- What an LED shows after some stores: a component the last one to it, and
the animation the last one of all when that was to it. -/
def shown (stores : List (LightbarLed × U32)) (led : LightbarLed) : U32 :=
  let counting :=
    if led = .animation then stores.getLast?.toList else stores
  ((counting.filter fun store => store.1 = led).getLast?).elim 0
    fun store => led.limited store.2

end Lightbar

section Stores

variable (machine : Machine Ram)

theorem run_uniwillWriteLightbarAnimation (animationStatus : Bool) :
    reliableEc.run (uniwillWriteLightbarAnimation animationStatus) machine =
      ((), machine.1,
        Function.update machine.2 0x0748
          (if animationStatus = true then machine.2 0x0748 ||| 0x80
          else machine.2 0x0748 &&& ~~~0x80)) := by
  simp only [uniwillWriteLightbarAnimation, updateUnchecked, run_bind,
    run_uniwillReadEcRam, run_uniwillWriteEcRam, reliableEc_read,
    reliableEc_write, EcRead.data_ok, run_pure]

/-- A component that is in range is written. -/
def writeComponent (address : U16) (value : U8) (ram : Ram) : Ram :=
  if value.toNat ≤ uniwillLightbarLedMaxBrightness then
    Function.update ram address value
  else ram

theorem writeComponent_inRange {value : U8} (address : U16) (ram : Ram)
    (inRange : value.toNat ≤ uniwillLightbarLedMaxBrightness) :
    writeComponent address value ram = Function.update ram address value := by
  rw [writeComponent, if_pos inRange]

theorem writeComponent_unset (address : U16) (ram : Ram) :
    writeComponent address 0xff ram = ram := by
  rw [writeComponent, if_neg (by decide)]

theorem run_uniwillWriteLightbarRgb (red green blue : U8) :
    reliableEc.run (uniwillWriteLightbarRgb red green blue) machine =
      ((), machine.1,
        writeComponent 0x074b blue
          (writeComponent 0x074a green
            (writeComponent 0x0749 red machine.2))) := by
  simp only [uniwillWriteLightbarRgb, run_bind, run_ite,
    run_uniwillWriteEcRam, reliableEc_write, run_pure, writeComponent]
  by_cases redInRange : red.toNat ≤ uniwillLightbarLedMaxBrightness <;>
    by_cases greenInRange : green.toNat ≤ uniwillLightbarLedMaxBrightness <;>
      by_cases blueInRange : blue.toNat ≤ uniwillLightbarLedMaxBrightness <;>
        simp only [redInRange, greenInRange, blueInRange, if_true, if_false]

/-- Only the registers of the lightbar change, and of the one with the
animation only its bit. -/
structure KeepsBesideLightbar (before after : Ram) : Prop where
  elsewhere : ∀ address : U16, address < 0x0748 ∨ 0x074b < address →
    after address = before address
  animationBits :
    after 0x0748 &&& ~~~0x80 = before 0x0748 &&& ~~~0x80

theorem KeepsBesideLightbar.refl (ram : Ram) : KeepsBesideLightbar ram ram :=
  ⟨fun _ _ => rfl, rfl⟩

theorem KeepsBesideLightbar.trans {first second third : Ram}
    (before : KeepsBesideLightbar first second)
    (after : KeepsBesideLightbar second third) :
    KeepsBesideLightbar first third where
  elsewhere address outside :=
    (after.elsewhere address outside).trans (before.elsewhere address outside)
  animationBits := after.animationBits.trans before.animationBits

theorem keepsBesideLightbar_component (address : U16) (value : U8)
    (inside : 0x0748 < address ∧ address ≤ 0x074b) (ram : Ram) :
    KeepsBesideLightbar ram (Function.update ram address value) where
  elsewhere other outside := by
    have apart : other ≠ address := by
      rintro rfl
      rcases outside with below | above
      · exact BitVec.lt_asymm below inside.1
      · exact absurd inside.2 (BitVec.not_le.mpr above)
    exact Function.update_of_ne apart value ram
  animationBits := by
    have apart : (0x0748 : U16) ≠ address := by
      rintro rfl
      exact BitVec.lt_irrefl _ inside.1
    rw [Function.update_of_ne apart]

theorem keepsBesideLightbar_animation {value : U8} {ram : Ram}
    (kept : value &&& ~~~0x80 = ram 0x0748 &&& ~~~0x80) :
    KeepsBesideLightbar ram (Function.update ram 0x0748 value) where
  elsewhere other outside := by
    have apart : other ≠ 0x0748 := by
      rintro rfl
      rcases outside with below | above
      · exact BitVec.lt_irrefl _ below
      · exact absurd above (by decide)
    exact Function.update_of_ne apart value ram
  animationBits := by
    rw [Function.update_self]
    exact kept

/-- What the animation bit does not touch. -/
theorem animationByte (on : Bool) (content : U8) :
    let byte := if on = true then content ||| 0x80 else content &&& ~~~0x80
    byte &&& ~~~0x80 = content &&& ~~~0x80 ∧
      decide (byte &&& 0x80 > 0) = on := by
  revert on content
  decide

/-- The byte of a limited brightness is in range. -/
theorem component_inRange (led : LightbarLed) (value : U32) :
    ((led.limited value).setWidth 8).toNat ≤
      uniwillLightbarLedMaxBrightness := by
  have bounded := led.limited_le value
  have most : led.maxBrightness.toNat ≤ 36 := by
    cases led <;> decide
  rw [BitVec.toNat_setWidth, uniwillLightbarLedMaxBrightness]
  omega

/-- The RAM that a store of an LED leaves. -/
def ramAfterStore (led : LightbarLed) (value : U32) (ram : Ram) : Ram :=
  let component := (led.limited value).setWidth 8
  let setAnimation (on : Bool) (ram : Ram) : Ram :=
    Function.update ram 0x0748
      (if on = true then ram 0x0748 ||| 0x80 else ram 0x0748 &&& ~~~0x80)
  match led with
  | .red => setAnimation false (Function.update ram 0x0749 component)
  | .green => setAnimation false (Function.update ram 0x074a component)
  | .blue => setAnimation false (Function.update ram 0x074b component)
  | .animation => setAnimation (decide (led.limited value = 1)) ram

theorem run_setBrightness (led : LightbarLed) (value : U32) :
    reliableEc.run (led.setBrightness value) machine =
      (0, machine.1, ramAfterStore led value machine.2) := by
  have inRange := component_inRange led value
  have isRed := led.strstr_name .red
  have isGreen := led.strstr_name .green
  have isBlue := led.strstr_name .blue
  have isAnimation := led.strstr_name .animation
  change strstr led.name uniwillLightbarLedNameRgbRed = _ at isRed
  change strstr led.name uniwillLightbarLedNameRgbGreen = _ at isGreen
  change strstr led.name uniwillLightbarLedNameRgbBlue = _ at isBlue
  change strstr led.name uniwillLightbarLedNameAnimation = _ at isAnimation
  unfold LightbarLed.setBrightness lightbarSetBlocking
  rw [isRed, isGreen, isBlue, isAnimation]
  cases led <;>
    simp only [reduceCtorEq, decide_false, decide_true, or_false, or_true,
      Bool.false_eq_true, if_true, if_false, run_bind, run_pure,
      run_uniwillWriteLightbarRgb, run_uniwillWriteLightbarAnimation,
      writeComponent_unset, writeComponent_inRange _ _ inRange,
      ramAfterStore]

theorem run_getBrightness (led : LightbarLed) :
    reliableEc.run led.getBrightness machine =
      ((Lightbar.ofRam machine.2).brightness led, machine) := by
  have isRed := led.strstr_name .red
  have isGreen := led.strstr_name .green
  have isBlue := led.strstr_name .blue
  have isAnimation := led.strstr_name .animation
  change strstr led.name uniwillLightbarLedNameRgbRed = _ at isRed
  change strstr led.name uniwillLightbarLedNameRgbGreen = _ at isGreen
  change strstr led.name uniwillLightbarLedNameRgbBlue = _ at isBlue
  change strstr led.name uniwillLightbarLedNameAnimation = _ at isAnimation
  unfold LightbarLed.getBrightness lightbarGet
  rw [isRed, isGreen, isBlue, isAnimation]
  rcases machine with ⟨statics, ram⟩
  cases led <;>
    simp only [reduceCtorEq, decide_false, decide_true, or_false, or_true,
      Bool.false_eq_true, if_true, if_false, run_bind, run_pure,
      uniwillReadLightbarRgb, uniwillReadLightbarAnimation,
      run_uniwillReadEcRam, reliableEc_read, EcRead.data_ok,
      Lightbar.ofRam, Lightbar.brightness]
  -- What is left is the animation, for which the same is decided.
  rfl

/-- The animation of the RAM is what its bit is set to, and the components
are as they were. -/
theorem ofRam_animation (on : Bool) (ram : Ram) :
    Lightbar.ofRam
        (Function.update ram 0x0748
          (if on = true then ram 0x0748 ||| 0x80
          else ram 0x0748 &&& ~~~0x80)) =
      { Lightbar.ofRam ram with animation := on } := by
  have shown := (animationByte on (ram 0x0748)).2
  unfold Lightbar.ofRam
  rw [Function.update_self, shown,
    Function.update_of_ne (by decide), Function.update_of_ne (by decide),
    Function.update_of_ne (by decide)]

theorem ofRam_ramAfterStore (led : LightbarLed) (value : U32) (ram : Ram) :
    Lightbar.ofRam (ramAfterStore led value ram) =
      (Lightbar.ofRam ram).store led value := by
  have component (address : U16) (byte : U8) :
      Lightbar.ofRam
          (Function.update (Function.update ram address byte) 0x0748
            (Function.update ram address byte 0x0748 &&& ~~~0x80)) =
        { Lightbar.ofRam (Function.update ram address byte) with
          animation := false } :=
    ofRam_animation false _
  cases led with
  | red => exact component _ _
  | green => exact component _ _
  | blue => exact component _ _
  | animation => exact ofRam_animation _ ram

theorem keepsBesideLightbar_store (led : LightbarLed) (value : U32)
    (ram : Ram) :
    KeepsBesideLightbar ram (ramAfterStore led value ram) := by
  have animation (on : Bool) (found : Ram) :
      KeepsBesideLightbar found
        (Function.update found 0x0748
          (if on = true then found 0x0748 ||| 0x80
          else found 0x0748 &&& ~~~0x80)) :=
    keepsBesideLightbar_animation (animationByte on _).1
  have component (address : U16) (byte : U8)
      (inside : 0x0748 < address ∧ address ≤ 0x074b) :=
    (keepsBesideLightbar_component address byte inside ram).trans
      (animation false _)
  cases led with
  | red => exact component 0x0749 _ (by decide)
  | green => exact component 0x074a _ (by decide)
  | blue => exact component 0x074b _ (by decide)
  | animation => exact animation _ ram

/-- The lightbar is black and not animated at first. -/
theorem uwLightbarInit_off {dmi : Dmi} {register : String → Int}
    (loaded : 0 ≤ (reliableEc.run (uwLightbarInit dmi register) machine).1) :
    let started := reliableEc.run (uwLightbarInit dmi register) machine
    Lightbar.ofRam started.2.2 = Lightbar.off ∧
      KeepsBesideLightbar machine.2 started.2.2 := by
  have supported : lightbarSupported dmi ≠ false := by
    intro missing
    unfold uwLightbarInit at loaded
    rw [if_pos missing] at loaded
    have failed : 0 ≤ -enodev := loaded
    exact absurd failed (by decide)
  have registered : (lightbarLedClassdevs.find? fun led =>
      decide (register led < 0)) = none := by
    cases failing : lightbarLedClassdevs.find? fun led =>
        decide (register led < 0) with
    | none => rfl
    | some led =>
        have negative := List.find?_some failing
        unfold uwLightbarInit at loaded
        rw [if_neg supported, failing] at loaded
        have notNegative : 0 ≤ register led := loaded
        have isNegative : register led < 0 := of_decide_eq_true negative
        omega
  have inRange : (0 : U8).toNat ≤ uniwillLightbarLedMaxBrightness := by
    decide
  have started : reliableEc.run (uwLightbarInit dmi register) machine =
      (0, machine.1,
        Function.update
          (Function.update
            (Function.update
              (Function.update machine.2 0x0748
                (machine.2 0x0748 &&& ~~~0x80))
              0x0749 0)
            0x074a 0)
          0x074b 0) := by
    unfold uwLightbarInit
    rw [if_neg supported, registered]
    simp only [run_bind, run_uniwillWriteLightbarAnimation,
      run_uniwillWriteLightbarRgb, run_pure,
      writeComponent_inRange _ _ inRange, Bool.false_eq_true, if_false]
  rw [started]
  constructor
  · have ended (content : U8) : content &&& 0x7f#8 &&& 0x80#8 = 0#8 := by
      revert content
      decide
    simp [Lightbar.ofRam, Lightbar.off, ended]
  · have animation := keepsBesideLightbar_animation
      (animationByte false (machine.2 0x0748)).1
    have red :=
      animation.trans (keepsBesideLightbar_component 0x0749 0 (by decide) _)
    have green :=
      red.trans (keepsBesideLightbar_component 0x074a 0 (by decide) _)
    exact green.trans (keepsBesideLightbar_component 0x074b 0 (by decide) _)

end Stores

/-! ## Runs -/

def lightbarStep (store : LightbarLed × U32) (machine : Machine Ram) :
    Machine Ram :=
  (reliableEc.run (store.1.setBrightness store.2) machine).2

/-- What one more store shows. -/
theorem Lightbar.shown_concat (stores : List (LightbarLed × U32))
    (led other : LightbarLed) (value : U32) :
    shown (stores ++ [(led, value)]) other =
      if other = led then led.limited value
      else if other = .animation then 0
      else shown stores other := by
  by_cases same : other = led
  · subst same
    cases other <;> simp [shown]
  · have different : led ≠ other := fun shape => same shape.symm
    cases other <;> simp [shown, same, different]

/-- Whatever is stored to the LEDs of a lightbar that was loaded, each of
them reads back what was stored to it last, limited to what it can show; the
animation runs when the last store of all was to start it.  Nothing else of
the RAM changes. -/
theorem lightbar_readsBack (dmi : Dmi) (register : String → Int)
    (machine : Machine Ram)
    (loaded : 0 ≤ (reliableEc.run (uwLightbarInit dmi register) machine).1)
    (stores : List (LightbarLed × U32)) :
    let started := (reliableEc.run (uwLightbarInit dmi register) machine).2
    let reached := runSteps lightbarStep stores started
    (∀ led : LightbarLed,
      reliableEc.run led.getBrightness reached =
          (Lightbar.shown stores led, reached) ∧
        (Lightbar.shown stores led).toNat ≤ led.maxBrightness.toNat) ∧
      KeepsBesideLightbar machine.2 reached.2 := by
  intro started reached
  have initially := uwLightbarInit_off machine loaded
  have invariant (done : List (LightbarLed × U32)) :
      let now := (runSteps lightbarStep done started).2
      (∀ led, (Lightbar.ofRam now).brightness led =
          Lightbar.shown done led) ∧
        (Lightbar.ofRam now).InRange ∧
        KeepsBesideLightbar machine.2 now := by
    induction done using List.reverseRecOn with
    | nil =>
        refine ⟨?_, ?_, initially.2⟩
        · intro led
          change (Lightbar.ofRam started.2).brightness led = _
          rw [initially.1]
          cases led <;> rfl
        · change (Lightbar.ofRam started.2).InRange
          rw [initially.1]
          intro led
          cases led <;> decide
    | append_singleton done store inductionHypothesis =>
        rcases inductionHypothesis with ⟨shows, inRange, kept⟩
        rcases store with ⟨led, value⟩
        have stored : (runSteps lightbarStep (done ++ [(led, value)])
            started).2 =
            ramAfterStore led value
              (runSteps lightbarStep done started).2 := by
          rw [runSteps_append]
          exact congrArg (fun result => result.2.2)
            (run_setBrightness (runSteps lightbarStep done started) led value)
        simp only [stored, ofRam_ramAfterStore]
        refine ⟨?_, inRange.store led value,
          kept.trans (keepsBesideLightbar_store led value _)⟩
        intro other
        rw [Lightbar.brightness_store, Lightbar.shown_concat, shows other]
  rcases invariant stores with ⟨shows, inRange, kept⟩
  refine ⟨fun led => ⟨?_, ?_⟩, kept⟩
  · rw [run_getBrightness, shows led]
  · rw [← shows led]
    exact inRange led

/-- Red is too bright and green ends the animation. -/
theorem lightbar_readsBack_green :
    let dmi : Dmi := fun field =>
      if field = .boardName then some "TRINITY1501I" else none
    let started :=
      (reliableEc.run (uwLightbarInit dmi fun _ => 0) ({}, fun _ => 0xff)).2
    let reached :=
      runSteps lightbarStep [(.red, 0x30), (.animation, 1), (.green, 5)]
        started
    (reliableEc.run LightbarLed.red.getBrightness reached).1 = 0x24 ∧
      (reliableEc.run LightbarLed.green.getBrightness reached).1 = 5 ∧
        (reliableEc.run LightbarLed.animation.getBrightness reached).1 =
          0 := by
  intro dmi started reached
  have shows :=
    (lightbar_readsBack dmi (fun _ => 0) ({}, fun _ => 0xff)
      (by decide +kernel)
      [(.red, 0x30), (.animation, 1), (.green, 5)]).1
  exact
    ⟨congrArg Prod.fst (shows .red).1, congrArg Prod.fst (shows .green).1,
      congrArg Prod.fst (shows .animation).1⟩

end TuxedoDrivers.Uniwill
