import TuxedoDrivers.Uniwill.BacklightRestore

/-!
# The colour black

The EC takes a colour whose three values are 0 for its defaults, so the
driver switches the backlight off for black.  It looks at the intensities of
the LED class and the EC at the converted values, of which there are 51 for
the 2^32 intensities.  The main result says exactly which intensities the
check is good for.
-/

namespace TuxedoDrivers.Uniwill

open Interaction

/-! ## The special case of the EC -/

/-- What an access writes to a register. -/
def writtenData (address : U16) : EcEvent → Option U8
  | .write written data _ => if written = address then some data else none
  | .read _ _ => none

def lastWritten (address : U16) (trace : List EcEvent) : Option U8 :=
  trace.reverse.findSome? (writtenData address)

def colorRegisters : List U16 :=
  [ uwEcRegKbdBlRgbRedBrightness, uwEcRegKbdBlRgbGreenBrightness,
    uwEcRegKbdBlRgbBlueBrightness ]

/-- The bit that applies the colour is written while the last value written
to each colour register is 0. -/
def AppliesBlack (trace : List EcEvent) : Prop :=
  ∃ before data outcome after,
    trace = before ++ .write uwEcRegKbdBlRgbMode data outcome :: after ∧
      data &&& uwEcRegKbdBlRgbModeBitApplyColor ≠ 0 ∧
      ∀ register ∈ colorRegisters, lastWritten register before = some 0

theorem write_of_lastWritten {address : U16} {trace : List EcEvent}
    {data : U8} (written : lastWritten address trace = some data) :
    ∃ outcome, .write address data outcome ∈ trace := by
  obtain ⟨event, member, writes⟩ := List.exists_of_findSome?_eq_some written
  cases event with
  | read other outcome =>
      cases writes
  | write other otherData outcome =>
      by_cases same : other = address
      · rw [writtenData, if_pos same] at writes
        cases writes
        cases same
        exact ⟨outcome, List.mem_reverse.mp member⟩
      · rw [writtenData, if_neg same] at writes
        cases writes

/-- Writing nothing but other values to one of the colour registers avoids
the special case. -/
theorem not_appliesBlack_of_color {trace : List EcEvent} {register : U16}
    (isColor : register ∈ colorRegisters)
    (nonzero : ∀ data outcome,
      .write register data outcome ∈ trace → data ≠ 0) :
    ¬ AppliesBlack trace := by
  rintro ⟨before, data, outcome, after, rfl, -, black⟩
  obtain ⟨colorOutcome, member⟩ :=
    write_of_lastWritten (black register isColor)
  exact nonzero 0 colorOutcome (List.mem_append_left _ member) rfl

theorem not_appliesBlack_of_mode {trace : List EcEvent}
    (unwritten : ∀ data outcome,
      .write uwEcRegKbdBlRgbMode data outcome ∉ trace) :
    ¬ AppliesBlack trace := by
  rintro ⟨before, data, outcome, after, rfl, -⟩
  exact
    unwritten data outcome
      (List.mem_append_right _ List.mem_cons_self)

/-! ## Conversion -/

theorem tfConvertRgbRange_eq_zero_iff (input : U8) :
    tfConvertRgbRange input = 0 ↔ input.toNat < 6 := by
  revert input
  decide +kernel

/-- The value of an intensity that is written is not 0. -/
def Visible (intensity : U32) : Prop :=
  6 ≤ intensity.toNat % 256

instance (intensity : U32) : Decidable (Visible intensity) :=
  inferInstanceAs (Decidable (_ ≤ _))

theorem visible_iff (intensity : U32) :
    Visible intensity ↔ tfConvertRgbRange (intensity.setWidth 8) ≠ 0 := by
  rw [Visible, ne_eq, tfConvertRgbRange_eq_zero_iff, BitVec.toNat_setWidth,
    not_lt]

/-- A colour register that only gets the value of a visible intensity avoids
the special case. -/
theorem not_appliesBlack_of_intensity {trace : List EcEvent}
    {register : U16} {intensity : U32}
    (isColor : register ∈ colorRegisters) (visible : Visible intensity)
    (written : ∀ data outcome, .write register data outcome ∈ trace →
      data = tfConvertRgbRange (intensity.setWidth 8)) :
    ¬ AppliesBlack trace := by
  apply not_appliesBlack_of_color isColor
  intro data outcome member
  rw [written data outcome member]
  exact (visible_iff intensity).mp visible

/-! ## The accesses of a set call -/

/-- Of the writes, only the allowed ones. -/
def WritesOnly (allowed : U16 → U8 → Prop) : UniwillRequest → Prop
  | .writeEcRam address data => allowed address data
  | .readEcRam _ => True
  | .statics _ => True

section Writes

variable {allowed : U16 → U8 → Prop}

theorem setStatics_writes (update : DriverState → DriverState) :
    (setStatics update).Asks (WritesOnly allowed) :=
  Program.Asks.bind ⟨trivial, fun _ => trivial⟩ fun _ => trivial

theorem updateChecked_writes {address : U16}
    (permitted : ∀ data, allowed address data) (update : U8 → U8)
    (written : DriverState → DriverState) :
    (updateChecked address update written).Asks (WritesOnly allowed) := by
  refine Program.Asks.bind ⟨trivial, fun _ => trivial⟩ fun previous => ?_
  refine Program.Asks.ite (fun _ => trivial) fun _ => ?_
  refine Program.Asks.bind ⟨permitted _, fun _ => trivial⟩ fun result => ?_
  refine Program.Asks.ite (fun _ => ?_) fun _ => trivial
  exact (setStatics_writes written).bind fun _ => trivial

theorem uniwillWriteKbdBlColor_writes {red green blue : U8}
    (redPermitted :
      allowed uwEcRegKbdBlRgbRedBrightness (tfConvertRgbRange red))
    (greenPermitted :
      allowed uwEcRegKbdBlRgbGreenBrightness (tfConvertRgbRange green))
    (bluePermitted :
      allowed uwEcRegKbdBlRgbBlueBrightness (tfConvertRgbRange blue))
    (modePermitted : ∀ data, allowed uwEcRegKbdBlRgbMode data) :
    (uniwillWriteKbdBlColor red green blue).Asks (WritesOnly allowed) := by
  refine
    Program.Asks.bind ⟨redPermitted, fun _ => trivial⟩ fun result => ?_
  refine Program.Asks.ite (fun _ => trivial) fun _ => ?_
  refine
    Program.Asks.bind ⟨greenPermitted, fun _ => trivial⟩ fun result => ?_
  refine Program.Asks.ite (fun _ => trivial) fun _ => ?_
  refine
    Program.Asks.bind ⟨bluePermitted, fun _ => trivial⟩ fun result => ?_
  refine Program.Asks.ite (fun _ => trivial) fun _ => ?_
  exact updateChecked_writes modePermitted _ _

end Writes

section SetCall

variable {σ : Type} {device : EcDevice σ} {statics : DriverState}
  {state : σ} {brightness : U32}

theorem mem_trace_of_black {event : EcEvent}
    (black :
      IsBlack statics.leds.subledRed statics.leds.subledGreen
        statics.leds.subledBlue)
    (member :
      event ∈ device.trace (uniwillLedsSetBrightnessMc brightness)
        (statics, state)) :
    event ∈ device.trace (uniwillWriteKbdBlBrightness 0)
      (statics, state) := by
  have blackCase : statics.leds.subledRed = 0 ∧
      statics.leds.subledGreen = 0 ∧ statics.leds.subledBlue = 0 := black
  simp only [uniwillLedsSetBrightnessMc, trace_bind, trace_getStatics,
    run_getStatics, List.nil_append, if_pos blackCase, trace_ite,
    trace_pure, trace_setStatics, ite_self, List.append_nil] at member
  exact member

theorem mem_trace_of_not_black {event : EcEvent}
    (notBlack :
      ¬ IsBlack statics.leds.subledRed statics.leds.subledGreen
        statics.leds.subledBlue)
    (member :
      event ∈ device.trace (uniwillLedsSetBrightnessMc brightness)
        (statics, state)) :
    event ∈ device.trace
        (uniwillWriteKbdBlColor (statics.leds.subledRed.setWidth 8)
          (statics.leds.subledGreen.setWidth 8)
          (statics.leds.subledBlue.setWidth 8)) (statics, state) ∨
      ∃ machine, event ∈ device.trace
        (uniwillWriteKbdBlBrightness (brightness.setWidth 8)) machine := by
  have colorCase : ¬ (statics.leds.subledRed = 0 ∧
      statics.leds.subledGreen = 0 ∧ statics.leds.subledBlue = 0) :=
    notBlack
  simp only [uniwillLedsSetBrightnessMc, trace_bind, trace_getStatics,
    run_getStatics, List.nil_append, if_neg colorCase, trace_ite,
    trace_pure, trace_setStatics, ite_self, List.append_nil,
    List.mem_append] at member
  rcases member with inColor | inBrightness
  · exact Or.inl inColor
  · split at inBrightness
    · cases inBrightness
    · exact Or.inr ⟨_, inBrightness⟩

/-- The brightness is written to one register. -/
theorem brightness_writes {machine : Machine σ} {brightness : U8}
    {address : U16} {data : U8} {outcome : EcWrite}
    (member : .write address data outcome ∈
      device.trace (uniwillWriteKbdBlBrightness brightness) machine) :
    address = uwEcRegKbdBlStatus := by
  have writes :
      (uniwillWriteKbdBlBrightness brightness).Asks
        (WritesOnly fun address _ => address = uwEcRegKbdBlStatus) :=
    updateChecked_writes (fun _ => rfl) _ _
  exact request_of_mem_trace writes member

theorem color_writes {machine : Machine σ} {red green blue : U8}
    {address : U16} {data : U8} {outcome : EcWrite}
    (member : .write address data outcome ∈
      device.trace (uniwillWriteKbdBlColor red green blue) machine) :
    (address = uwEcRegKbdBlRgbRedBrightness →
        data = tfConvertRgbRange red) ∧
      (address = uwEcRegKbdBlRgbGreenBrightness →
        data = tfConvertRgbRange green) ∧
      (address = uwEcRegKbdBlRgbBlueBrightness →
        data = tfConvertRgbRange blue) := by
  have writes :
      (uniwillWriteKbdBlColor red green blue).Asks
        (WritesOnly fun address data =>
          (address = uwEcRegKbdBlRgbRedBrightness →
              data = tfConvertRgbRange red) ∧
            (address = uwEcRegKbdBlRgbGreenBrightness →
              data = tfConvertRgbRange green) ∧
            (address = uwEcRegKbdBlRgbBlueBrightness →
              data = tfConvertRgbRange blue)) := by
    apply uniwillWriteKbdBlColor_writes
    · simp
    · simp
    · simp
    · simp
  exact request_of_mem_trace writes member

/-- Black is written as brightness 0, and no colour is applied. -/
theorem not_appliesBlack_of_isBlack
    (black :
      IsBlack statics.leds.subledRed statics.leds.subledGreen
        statics.leds.subledBlue) :
    ¬ AppliesBlack
      (device.trace (uniwillLedsSetBrightnessMc brightness)
        (statics, state)) := by
  refine not_appliesBlack_of_mode fun data outcome member => ?_
  have inBrightness := mem_trace_of_black black member
  exact absurd (brightness_writes inBrightness) (by decide)

/-- A colour of which something is visible is not black to the EC. -/
theorem not_appliesBlack_of_visible
    (visible :
      Visible statics.leds.subledRed ∨ Visible statics.leds.subledGreen ∨
        Visible statics.leds.subledBlue) :
    ¬ AppliesBlack
      (device.trace (uniwillLedsSetBrightnessMc brightness)
        (statics, state)) := by
  by_cases black :
      IsBlack statics.leds.subledRed statics.leds.subledGreen
        statics.leds.subledBlue
  · exact not_appliesBlack_of_isBlack black
  have writesColor : ∀ {address data outcome},
      .write address data outcome ∈
          device.trace (uniwillLedsSetBrightnessMc brightness)
            (statics, state) →
        address ≠ uwEcRegKbdBlStatus →
          .write address data outcome ∈ device.trace
            (uniwillWriteKbdBlColor (statics.leds.subledRed.setWidth 8)
              (statics.leds.subledGreen.setWidth 8)
              (statics.leds.subledBlue.setWidth 8)) (statics, state) := by
    intro address data outcome member other
    rcases mem_trace_of_not_black black member with inColor | inBrightness
    · exact inColor
    · obtain ⟨machine, inBrightness⟩ := inBrightness
      exact absurd (brightness_writes inBrightness) other
  rcases visible with red | green | blue
  · have isColor : uwEcRegKbdBlRgbRedBrightness ∈ colorRegisters := by
      decide
    apply not_appliesBlack_of_intensity isColor red
    intro data outcome member
    exact (color_writes (writesColor member (by decide))).1 rfl
  · have isColor : uwEcRegKbdBlRgbGreenBrightness ∈ colorRegisters := by
      decide
    apply not_appliesBlack_of_intensity isColor green
    intro data outcome member
    exact (color_writes (writesColor member (by decide))).2.1 rfl
  · have isColor : uwEcRegKbdBlRgbBlueBrightness ∈ colorRegisters := by
      decide
    apply not_appliesBlack_of_intensity isColor blue
    intro data outcome member
    exact (color_writes (writesColor member (by decide))).2.2 rfl

end SetCall

/-! ## The check of the driver -/

/-- A call with the intensities and the brightness never triggers the special
case, on any device, and a colour that converts to black is shown as
backlight off. -/
structure BlackAvoided (statics : DriverState) (brightness : U32) :
    Prop where
  neverApplied : ∀ (σ : Type) (device : EcDevice σ) (state : σ),
    ¬ AppliesBlack
      (device.trace (uniwillLedsSetBrightnessMc brightness)
        (statics, state))
  shownOff :
    tfConvertRgbRange (statics.leds.subledRed.setWidth 8) = 0 →
      tfConvertRgbRange (statics.leds.subledGreen.setWidth 8) = 0 →
        tfConvertRgbRange (statics.leds.subledBlue.setWidth 8) = 0 →
          ∀ ram : Ram,
            effectiveBacklight
              (reliableEc.run (uniwillLedsSetBrightnessMc brightness)
                (statics, ram)).2.2 = .off

/-- A set call for the intensities that the LED class has stored. -/
theorem applyBacklight_stored (statics : DriverState) (brightness : U32)
    (ram : Ram) :
    applyBacklight
        (.set statics.leds.subledRed statics.leds.subledGreen
          statics.leds.subledBlue brightness) (statics, ram) =
      (reliableEc.run (uniwillLedsSetBrightnessMc brightness)
        (statics, ram)).2 := by
  simp only [applyBacklight, setMultiIntensity, storeIntensities, run_bind,
    run_setStatics]

theorem trace_uniwillWriteKbdBlColor (red green blue : U8)
    (machine : Machine Ram) :
    reliableEc.trace (uniwillWriteKbdBlColor red green blue) machine =
      [ .write uwEcRegKbdBlRgbRedBrightness (tfConvertRgbRange red) .ok,
        .write uwEcRegKbdBlRgbGreenBrightness (tfConvertRgbRange green) .ok,
        .write uwEcRegKbdBlRgbBlueBrightness (tfConvertRgbRange blue) .ok,
        .read uwEcRegKbdBlRgbMode (.ok (machine.2 uwEcRegKbdBlRgbMode)),
        .write uwEcRegKbdBlRgbMode
          (machine.2 uwEcRegKbdBlRgbMode |||
            uwEcRegKbdBlRgbModeBitApplyColor) .ok ] := by
  simp [uniwillWriteKbdBlColor, updateChecked]

/-- On a device whose accesses succeed, a colour that is not black to the
driver and black to the EC is applied. -/
theorem appliesBlack_of_invisible {statics : DriverState}
    (notBlack :
      ¬ IsBlack statics.leds.subledRed statics.leds.subledGreen
        statics.leds.subledBlue)
    (red : tfConvertRgbRange (statics.leds.subledRed.setWidth 8) = 0)
    (green : tfConvertRgbRange (statics.leds.subledGreen.setWidth 8) = 0)
    (blue : tfConvertRgbRange (statics.leds.subledBlue.setWidth 8) = 0)
    (ram : Ram) (brightness : U32) :
    AppliesBlack
      (reliableEc.trace (uniwillLedsSetBrightnessMc brightness)
        (statics, ram)) := by
  have colorCase : ¬ (statics.leds.subledRed = 0 ∧
      statics.leds.subledGreen = 0 ∧ statics.leds.subledBlue = 0) :=
    notBlack
  have applied : ∀ data : U8,
      (data ||| uwEcRegKbdBlRgbModeBitApplyColor) &&&
        uwEcRegKbdBlRgbModeBitApplyColor ≠ 0 := by
    decide
  simp only [uniwillLedsSetBrightnessMc, trace_bind, trace_getStatics,
    run_getStatics, List.nil_append, if_neg colorCase,
    trace_uniwillWriteKbdBlColor, red, green, blue]
  refine
    ⟨[ .write uwEcRegKbdBlRgbRedBrightness 0 .ok,
        .write uwEcRegKbdBlRgbGreenBrightness 0 .ok,
        .write uwEcRegKbdBlRgbBlueBrightness 0 .ok,
        .read uwEcRegKbdBlRgbMode (.ok (ram uwEcRegKbdBlRgbMode)) ],
      _, .ok, _, rfl, applied _, ?_⟩
  intro register isColor
  simp only [colorRegisters, List.mem_cons, List.not_mem_nil, or_false]
    at isColor
  rcases isColor with rfl | rfl | rfl <;> rfl

/-- The special case is avoided exactly for an intensity triple that is all
zero and for one of which something is visible. -/
theorem blackAvoided_iff (statics : DriverState) (brightness : U32) :
    BlackAvoided statics brightness ↔
      IsBlack statics.leds.subledRed statics.leds.subledGreen
          statics.leds.subledBlue ∨
        Visible statics.leds.subledRed ∨ Visible statics.leds.subledGreen ∨
        Visible statics.leds.subledBlue := by
  constructor
  · intro avoided
    by_contra neither
    obtain ⟨notBlack, invisible⟩ := not_or.mp neither
    obtain ⟨red, invisible⟩ := not_or.mp invisible
    obtain ⟨green, blue⟩ := not_or.mp invisible
    rw [visible_iff, not_not] at red green blue
    exact
      avoided.neverApplied Ram reliableEc (fun _ => 0)
        (appliesBlack_of_invisible notBlack red green blue _ brightness)
  · rintro (black | visible)
    · constructor
      · intro σ device state
        exact not_appliesBlack_of_isBlack black
      · intro _ _ _ ram
        rw [← applyBacklight_stored, effectiveBacklight_set, if_pos black]
    · constructor
      · intro σ device state
        exact not_appliesBlack_of_visible visible
      · intro red green blue
        rw [visible_iff, visible_iff, visible_iff] at visible
        exact absurd visible (by simp [red, green, blue])

/-- Red at the lowest intensity is black to the EC and is applied. -/
theorem blackAvoided_lowestRed :
    let statics : DriverState :=
      { leds.subledRed := 1, leds.subledGreen := 0, leds.subledBlue := 0 }
    AppliesBlack
        (reliableEc.trace (uniwillLedsSetBrightnessMc 1)
          (statics, fun _ => 0)) ∧
      ¬ BlackAvoided statics 1 := by
  intro statics
  have applies :
      AppliesBlack
        (reliableEc.trace (uniwillLedsSetBrightnessMc 1)
          (statics, fun _ => 0)) :=
    appliesBlack_of_invisible (by decide) (by decide) (by decide)
      (by decide) _ 1
  exact ⟨applies, fun avoided => avoided.neverApplied _ _ _ applies⟩

end TuxedoDrivers.Uniwill
