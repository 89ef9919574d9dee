import TuxedoDrivers.Clevo.CallContract
import TuxedoDrivers.Clevo.Flexicharger
import TuxedoDrivers.Interaction.Results

/-!
# Keyboard backlight set-up

`clevo_leds_init` finds out which backlight a keyboard has: it asks the
firmware for its specifications up to three times and, where that gives no
type, for the features of older machines.

The status of a further question that is asked once the type is known decides
whether the features are asked for as well.  The main result says exactly
when the type that was reported is the one the set-up ends with.
-/

namespace TuxedoDrivers.Clevo

open Interaction

/-! ## State -/

def clevoKbBacklightTypeNone : U8 := 0x00

def clevoKbBacklightTypeFixedColor : U8 := 0x01

def clevoKbBacklightType3ZoneRgb : U8 := 0x02

def clevoKbBacklightType1ZoneRgb : U8 := 0x06

def clevoKbdBrightnessWhiteMax5 : U32 := 0x05

def clevoKbdBrightnessWhiteMax5Default : U32 := 0x00

def clevoKbColorDefault : U32 := 0xffffff

/-- An element of `clevo_mcled_cdevs` with the intensities of its three
colours. -/
structure ClevoMcled where
  brightness : U32 := 0x00
  red : U32 := 0xff
  green : U32 := 0xff
  blue : U32 := 0xff
  deriving DecidableEq, Repr

/-- The static variables: the type, two fields of `clevo_led_cdev`, the
three zones and `leds_initialized`. -/
structure ClevoLeds where
  backlightType : U8 := clevoKbBacklightTypeNone
  maxBrightness : U32 := 0x02
  brightness : U32 := 0x00
  zones : Fin 3 → ClevoMcled := fun _ => {}
  initialized : Bool := false

/-- What the registrations return, for the white keyboard and for each
zone. -/
structure LedRegistrations where
  white : Int := 0
  zone : Fin 3 → Int := fun _ => 0

section Leds

variable (activeClevoInterface : Option ClevoInterface)

/-! ## Writing to the firmware -/

def clevoEvaluateSetWhiteBrightness (brightness : U8) : Call Int :=
  Prod.fst <$>
    clevoEvaluateMethod activeClevoInterface 0x27 (brightness.setWidth 32)

def clevoEvaluateSetRgbBrightness (brightness : U8) : Call Int :=
  Prod.fst <$>
    clevoEvaluateMethod activeClevoInterface 0x67
      (0xf4000000 ||| brightness.setWidth 32)

def clevoEvaluateSetRgbColor (zone color : U32) : Call Int :=
  let cset : U32 :=
    ((color &&& 0x0000ff) <<< 16) ||| ((color &&& 0xff0000) >>> 8) |||
      ((color &&& 0x00ff00) >>> 8)
  Prod.fst <$>
    clevoEvaluateMethod activeClevoInterface 0x67 (zone ||| cset)

def clevoEvaluateSetKeyboardStatus (state : U8) : Call Int :=
  let cmd : U32 :=
    0xe0000000 ||| (if state = 0 then 0x003001 else 0x07f001)
  Prod.fst <$> clevoEvaluateMethod activeClevoInterface 0x67 cmd

/-- `brightness_set` of the white keyboard. -/
def clevoLedsSetBrightness (leds : ClevoLeds) (brightness : U32) :
    Call ClevoLeds := do
  let ret ←
    clevoEvaluateSetWhiteBrightness activeClevoInterface
      (brightness.setWidth 8)
  return if ret ≠ 0 then leds else { leds with brightness := brightness }

/-- Red, green and blue. -/
def colorScaling (type red green blue : U8) : U8 × U8 × U8 :=
  if type = clevoKbBacklightType1ZoneRgb then
    (BitVec.ofNat 8 (180 * red.toNat / 255), green,
      BitVec.ofNat 8 (200 * blue.toNat / 255))
  else (red, green, blue)

/-- `CLEVO_CMD_SET_KB_LEDS_SUB_RGB_ZONE_0` and the two after it. -/
def ledChannel (zone : Fin 3) : U32 :=
  0xf0000000 + (BitVec.ofNat 32 zone.val <<< 24)

/-- The brightness is that of the whole keyboard and is stored for all
zones, the colour is that of one zone. -/
def clevoLedsSetBrightnessMc (leds : ClevoLeds) (zone : Fin 3)
    (brightness : U32) : Call ClevoLeds := do
  let ret ←
    clevoEvaluateSetRgbBrightness activeClevoInterface
      (brightness.setWidth 8)
  if ret ≠ 0 then
    return leds
  else
    let mcled := leds.zones zone
    let (red, green, blue) :=
      colorScaling leds.backlightType (mcled.red.setWidth 8)
        (mcled.green.setWidth 8) (mcled.blue.setWidth 8)
    let color : U32 :=
      (red.setWidth 32 <<< 16) + (green.setWidth 32 <<< 8) +
        blue.setWidth 32
    let _ ←
      clevoEvaluateSetRgbColor activeClevoInterface (ledChannel zone) color
    return { leds with
      zones := fun zone =>
        { leds.zones zone with brightness := brightness } }

def clevoLedsSetBrightnessExtern (leds : ClevoLeds) (brightness : U32) :
    Call ClevoLeds := do
  if leds.backlightType = clevoKbBacklightTypeFixedColor then
    clevoLedsSetBrightness activeClevoInterface leds brightness
  else if leds.backlightType = clevoKbBacklightType1ZoneRgb then
    clevoLedsSetBrightnessMc activeClevoInterface leds 0 brightness
  else if leds.backlightType = clevoKbBacklightType3ZoneRgb then
    let leds ←
      clevoLedsSetBrightnessMc activeClevoInterface leds 0 brightness
    let leds ←
      clevoLedsSetBrightnessMc activeClevoInterface leds 1 brightness
    clevoLedsSetBrightnessMc activeClevoInterface leds 2 brightness
  else
    return leds

/-- The statements about one zone of `clevo_leds_set_color_extern`. -/
def setZoneColor (leds : ClevoLeds) (zone : Fin 3) (color : U32) :
    Call ClevoLeds :=
  let mcled : ClevoMcled :=
    { leds.zones zone with
      red := (color >>> 16) &&& 0xff
      green := (color >>> 8) &&& 0xff
      blue := color &&& 0xff }
  clevoLedsSetBrightnessMc activeClevoInterface
    { leds with zones := Function.update leds.zones zone mcled } zone
    mcled.brightness

def clevoLedsSetColorExtern (leds : ClevoLeds) (color : U32) :
    Call ClevoLeds := do
  if leds.backlightType = clevoKbBacklightType1ZoneRgb then
    setZoneColor activeClevoInterface leds 0 color
  else if leds.backlightType = clevoKbBacklightType3ZoneRgb then
    let leds ← setZoneColor activeClevoInterface leds 0 color
    let leds ← setZoneColor activeClevoInterface leds 1 color
    setZoneColor activeClevoInterface leds 2 color
  else
    return leds

/-! ## Finding the type -/

/-- Five steps of brightness instead of two. -/
def ClevoLeds.whiteMax5 (leds : ClevoLeds) : ClevoLeds :=
  { leds with
    maxBrightness := clevoKbdBrightnessWhiteMax5
    brightness := clevoKbdBrightnessWhiteMax5Default }

/-- The question `CLEVO_CMD_GET_BIOS_FEATURES_2`, which both ways to find the
type ask: the status, and the keyboard with its steps. -/
def getBiosFeatures2 (leds : ClevoLeds) : Call (Int × ClevoLeds) := do
  let features ← clevoEvaluateMethod activeClevoInterface 0x7a 0
  if features.1 = 0 then
    if features.2.getD 0 &&& 0x4000 ≠ 0 then
      return (features.1, leds.whiteMax5)
    else
      return (features.1, leds)
  else
    return (features.1, leds)

/-- The loop, with the attempts that are left.  It ends at the first type
that is not `CLEVO_KB_BACKLIGHT_TYPE_NONE`, with the status of the question
about the brightness steps and without freeing the object. -/
def getSpecs : Nat → Int → ClevoLeds → Call (Int × ClevoLeds)
  | 0, status, leds => return (status, leds)
  | attempts + 1, _, leds => do
      let reply ← clevoEvaluateMethod2 activeClevoInterface 0x0d 0 true
      if reply.status = 0 then
        match ← readObject reply.stored with
        | .buffer bytes => do
            let type ← readByte bytes[0x0f]?
            let leds := { leds with backlightType := type }
            if type ≠ clevoKbBacklightTypeNone then
              getBiosFeatures2 activeClevoInterface leds
            else
              acpiFree reply.stored
              getSpecs attempts reply.status leds
        | .integer _ | .other => do
            acpiFree reply.stored
            getSpecs attempts (-einval) leds
      else
        getSpecs attempts reply.status leds

/-- The features of machines that do not report a type. -/
def getBiosFeatures1 (leds : ClevoLeds) : Call ClevoLeds := do
  let features ← clevoEvaluateMethod activeClevoInterface 0x52 0
  if features.1 = 0 then
    if features.2.getD 0 &&& 0x00400000 ≠ 0 then
      return { leds with backlightType := clevoKbBacklightType3ZoneRgb }
    else if features.2.getD 0 &&& 0x40000000 ≠ 0 then
      Prod.snd <$>
        getBiosFeatures2 activeClevoInterface
          { leds with backlightType := clevoKbBacklightTypeFixedColor }
    else
      return leds
  else
    return leds

/-! ## Set-up -/

/-- The registrations, up to the first that fails. -/
def registerLeds (registrations : LedRegistrations) (leds : ClevoLeds) :
    Call (Int × ClevoLeds) := do
  let ready : ClevoLeds := { leds with initialized := true }
  if leds.backlightType = clevoKbBacklightTypeFixedColor then
    if registrations.white ≠ 0 then
      return (registrations.white, leds)
    else
      return (0, ready)
  else if leds.backlightType = clevoKbBacklightType1ZoneRgb then
    let _ ← clevoEvaluateSetKeyboardStatus activeClevoInterface 1
    if registrations.zone 0 ≠ 0 then
      return (registrations.zone 0, leds)
    else
      return (0, ready)
  else if leds.backlightType = clevoKbBacklightType3ZoneRgb then
    let _ ← clevoEvaluateSetKeyboardStatus activeClevoInterface 1
    if registrations.zone 0 ≠ 0 then
      return (registrations.zone 0, leds)
    else if registrations.zone 1 ≠ 0 then
      return (registrations.zone 1, leds)
    else if registrations.zone 2 ≠ 0 then
      return (registrations.zone 2, leds)
    else
      return (0, ready)
  else
    return (0, ready)

/-- The first part of `clevo_leds_init`, which decides the type. -/
def findBacklightType (leds : ClevoLeds) : Call ClevoLeds := do
  let (status, leds) ← getSpecs activeClevoInterface 3 0 leds
  if status ≠ 0 ∨ leds.backlightType = clevoKbBacklightTypeNone then
    getBiosFeatures1 activeClevoInterface leds
  else
    return leds

def clevoLedsInit (dmi : Dmi) (registrations : LedRegistrations)
    (leds : ClevoLeds) : Call (Int × ClevoLeds) := do
  let leds ← findBacklightType activeClevoInterface leds
  let leds :=
    if dmiStringIn dmi .boardName "N14xWU" = true ∨
        dmiStringIn dmi .boardName "N13xWU" = true then
      leds.whiteMax5
    else leds
  let leds ←
    if leds.backlightType = clevoKbBacklightTypeFixedColor then
      clevoLedsSetBrightnessExtern activeClevoInterface leds leds.brightness
    else
      clevoLedsSetColorExtern activeClevoInterface leds clevoKbColorDefault
  registerLeds activeClevoInterface registrations leds

/-! ## What the firmware reports -/

/-- The type in the specifications, if they are long enough and name one. -/
def reportedType (bytes : List U8) : Option U8 :=
  bytes[0x0f]?.filter fun type => type ≠ clevoKbBacklightTypeNone

/-- The buffer that an answer to `CLEVO_CMD_GET_SPECS` consists of. -/
def specsBuffer :
    (request : ClevoRequest) → request.Answer → Option (List U8)
  | .wmiEvaluateMethod methodId _, .success (some (.buffer bytes)) =>
      if methodId = 0x0d then some bytes else none
  | .acpiEvaluateDsm function _, some (.buffer bytes) =>
      if function = 0x0d then some bytes else none
  | _, _ => none

/-- The first type that an answer to `CLEVO_CMD_GET_SPECS` reports. -/
def firstReport (trace : List (Event clevoSignature)) : Option U8 :=
  trace.findSome? fun event =>
    (specsBuffer event.request event.answer).bind reportedType

/-- The attempts by themselves, with what they report. -/
def askSpecs : Nat → Call (Option U8)
  | 0 => return none
  | attempts + 1 => do
      let reply ← clevoEvaluateMethod2 activeClevoInterface 0x0d 0 true
      if reply.status = 0 then
        match ← readObject reply.stored with
        | .buffer bytes => do
            let type ← readByte bytes[0x0f]?
            if type ≠ clevoKbBacklightTypeNone then
              return reportedType bytes
            else
              acpiFree reply.stored
              askSpecs attempts
        | .integer _ | .other => do
            acpiFree reply.stored
            askSpecs attempts
      else
        askSpecs attempts

/-- The type that the answer to `CLEVO_CMD_GET_BIOS_FEATURES_1` stands
for. -/
def featuresType (features : Int × Option U32) : Option U8 :=
  if features.1 = 0 then
    if features.2.getD 0 &&& 0x00400000 ≠ 0 then
      some clevoKbBacklightType3ZoneRgb
    else if features.2.getD 0 &&& 0x40000000 ≠ 0 then
      some clevoKbBacklightTypeFixedColor
    else none
  else none

/-- A request that is not `CLEVO_CMD_GET_SPECS`. -/
def NotSpecs : ClevoRequest → Prop
  | .wmiEvaluateMethod methodId _ => methodId ≠ 0x0d
  | .acpiEvaluateDsm function _ => function ≠ 0x0d
  | _ => True

section Run

variable {σ : Type} (firmware : Firmware σ)

/-- The fallback is entered and stores a type. -/
def FallbackDecides (leds : ClevoLeds) (state : σ) : Prop :=
  let specs := (getSpecs activeClevoInterface 3 0 leds).run firmware state
  let features :=
    (clevoEvaluateMethod activeClevoInterface 0x52 0).run firmware specs.2
  (specs.1.1 ≠ 0 ∨ specs.1.2.backlightType = clevoKbBacklightTypeNone) ∧
    featuresType features.1 ≠ none

/-- The set-up ends with the first type that is reported, and the fallback
only decides when none is. -/
structure ReportedTypeFinal (dmi : Dmi) (registrations : LedRegistrations)
    (leds : ClevoLeds) (state : σ) : Prop where
  final :
    let init := clevoLedsInit activeClevoInterface dmi registrations leds
    ∀ type, firstReport (init.trace firmware state) = some type →
      (init.run firmware state).1.2.backlightType = type
  fallback :
    FallbackDecides activeClevoInterface firmware leds state →
      firstReport
        ((clevoLedsInit activeClevoInterface dmi registrations leds).trace
          firmware state) = none

/-- After a type is reported, the question about the brightness steps
succeeds, or the one about the older features gives no type. -/
def FeaturesAgree (state : σ) : Prop :=
  let specs := (askSpecs activeClevoInterface 3).run firmware state
  let steps :=
    (clevoEvaluateMethod activeClevoInterface 0x7a 0).run firmware specs.2
  let features :=
    (clevoEvaluateMethod activeClevoInterface 0x52 0).run firmware steps.2
  specs.1 ≠ none → steps.1.1 = 0 ∨ featuresType features.1 = none

/-! ### The trace -/

theorem firstReport_append
    (first second : List (Event clevoSignature)) :
    firstReport (first ++ second) =
      (firstReport first).or (firstReport second) :=
  List.findSome?_append

theorem firstReport_of_notSpecs {α : Type} {program : Call α}
    (asks : program.Asks NotSpecs) (state : σ) :
    firstReport (program.trace firmware state) = none := by
  apply List.findSome?_eq_none_iff.mpr
  rintro ⟨request, answer⟩ member
  have other : NotSpecs request := asks.of_mem_trace member
  cases request with
  | wmiEvaluateMethod methodId arg =>
      have unmatched : ¬ methodId = 0x0d := other
      rcases answer with _ | _ | value | bytes | _
      case success.some.buffer =>
        simp only [specsBuffer, if_neg unmatched, Option.bind_none]
      all_goals rfl
  | acpiEvaluateDsm function argument =>
      have unmatched : ¬ function = 0x0d := other
      rcases answer with _ | value | bytes | _
      case some.buffer =>
        simp only [specsBuffer, if_neg unmatched, Option.bind_none]
      all_goals rfl
  | activeDriverData => rfl
  | acpiDeviceHandle => rfl
  | strayObject => rfl
  | strayByte => rfl
  | acpiFree object => rfl

/-- What a call with `CLEVO_CMD_GET_SPECS` reports. -/
def replyReport (reply : MethodReturn) : Option U8 :=
  if reply.status = 0 then
    match reply.stored with
    | some (.buffer bytes) => reportedType bytes
    | some (.integer _) | some .other | none => none
  else none

theorem firstReport_getSpecs (state : σ) :
    firstReport
        ((clevoEvaluateMethod2 activeClevoInterface 0x0d 0 true).trace
          firmware state) =
      replyReport
        ((clevoEvaluateMethod2 activeClevoInterface 0x0d 0 true).run
          firmware state).1 := by
  have valid : ¬ guidParse clevoAcpiDsmUuid < 0 := by
    rw [guidParse_clevoAcpiDsmUuid]
    decide
  cases activeClevoInterface with
  | none => rfl
  | some interface =>
      cases interface with
      | wmi =>
          simp only [clevoEvaluateMethod2, ClevoInterface.methodCall,
            clevoWmiInterfaceMethodCall, clevoWmiEvaluate,
            Program.run_bind, Program.trace_bind, run_wmiEvaluateMethod,
            trace_wmiEvaluateMethod]
          rcases
            (firmware (.wmiEvaluateMethod (BitVec.setWidth 32 (0x0d : U8))
              0) state).1 with _ | _ | value | bytes | _
          all_goals simp [firstReport, specsBuffer, replyReport, eio]
      | acpi =>
          simp only [clevoEvaluateMethod2, ClevoInterface.methodCall,
            clevoAcpiInterfaceMethodCall, clevoAcpiEvaluate,
            clevoAcpiEvaluateDsm, if_neg valid, Program.run_bind,
            Program.trace_bind, run_activeDriverData, run_acpiDeviceHandle,
            trace_acpiDeviceHandle, Program.run_ite, Program.trace_ite,
            run_acpiEvaluateDsm, trace_acpiEvaluateDsm, Program.run_pure,
            Program.trace_pure]
          cases present : (firmware .activeDriverData state).1 with
          | false =>
              simp [present, activeDriverData, Program.request,
                Program.trace, firstReport, specsBuffer, replyReport,
                enodata]
          | true =>
              generalize (firmware .activeDriverData state).2 = present
              cases handle : (firmware .acpiDeviceHandle present).1 with
              | false =>
                  simp [activeDriverData, Program.request, Program.trace,
                    firstReport, specsBuffer, replyReport, enodev]
              | true =>
                  generalize (firmware .acpiDeviceHandle present).2 = found
                  rcases
                    (firmware (.acpiEvaluateDsm
                      (BitVec.setWidth 64 (0x0d : U8))
                      (.integer (BitVec.setWidth 64 (0 : U32)))) found).1
                    with _ | value | bytes | _
                  all_goals simp [activeDriverData, Program.request,
                    Program.trace, firstReport, specsBuffer, replyReport,
                    guidParse_clevoAcpiDsmUuid]

/-! ### Requests -/

theorem acpiFree_notSpecs (object : Option AcpiObject) :
    (acpiFree object).Asks NotSpecs :=
  ⟨trivial, fun _ => trivial⟩

theorem readByte_notSpecs (byte : Option U8) :
    (readByte byte).Asks NotSpecs := by
  cases byte with
  | none => exact ⟨trivial, fun _ => trivial⟩
  | some byte => trivial

theorem notSpecs_of_callRequest {α : Type} {cmd : U8}
    {argument : DsmArgument} {program : Call α}
    (asks : program.Asks (CallRequest cmd argument))
    (otherMethod : cmd.setWidth 32 ≠ (0x0d : U32))
    (otherFunction : cmd.setWidth 64 ≠ (0x0d : U64)) :
    program.Asks NotSpecs := by
  refine asks.mono ?_
  intro request permitted
  cases request with
  | wmiEvaluateMethod methodId arg =>
      have method : methodId = cmd.setWidth 32 := permitted
      rw [method]
      exact otherMethod
  | acpiEvaluateDsm function package =>
      have called : function = cmd.setWidth 64 := permitted.1
      rw [called]
      exact otherFunction
  | activeDriverData | acpiDeviceHandle | strayObject | strayByte
  | acpiFree =>
      trivial

theorem clevoEvaluateMethod_notSpecs {cmd : U8}
    (otherMethod : cmd.setWidth 32 ≠ (0x0d : U32))
    (otherFunction : cmd.setWidth 64 ≠ (0x0d : U64)) (arg : U32) :
    (clevoEvaluateMethod activeClevoInterface cmd arg).Asks NotSpecs := by
  have asks := clevoEvaluateMethod2_asks cmd true activeClevoInterface arg
  refine
    (notSpecs_of_callRequest asks otherMethod otherFunction).bind
      fun reply => ?_
  refine Program.Asks.ite (fun _ => trivial) fun _ => ?_
  refine Program.Asks.bind ?_ fun object => ?_
  · cases reply.stored with
    | none =>
        exact ⟨trivial, fun _ => trivial⟩
    | some object =>
        trivial
  · refine (acpiFree_notSpecs reply.stored).bind fun _ => ?_
    cases object <;> trivial

theorem getBiosFeatures2_notSpecs (leds : ClevoLeds) :
    (getBiosFeatures2 activeClevoInterface leds).Asks NotSpecs := by
  refine
    (clevoEvaluateMethod_notSpecs activeClevoInterface (by decide)
      (by decide) 0).bind fun features => ?_
  refine Program.Asks.ite (fun _ => ?_) fun _ => trivial
  exact Program.Asks.ite (fun _ => trivial) fun _ => trivial

/-! ### The attempts -/

/-- A loop reports what attempts by themselves report, and after a report it
asks for the brightness steps. -/
structure ReportsAs (attempts : Call (Option U8))
    (loop : Call (Int × ClevoLeds)) (leds : ClevoLeds) (state : σ) :
    Prop where
  report :
    firstReport (loop.trace firmware state) =
      (attempts.run firmware state).1
  next : ∀ type, (attempts.run firmware state).1 = some type →
    type ≠ clevoKbBacklightTypeNone ∧
      loop.run firmware state =
        (getBiosFeatures2 activeClevoInterface
          { leds with backlightType := type }).run firmware
          (attempts.run firmware state).2

/-- What asks for no type makes no difference. -/
theorem ReportsAs.after {α : Type} {first : Call α}
    {attempts : α → Call (Option U8)} {loop : α → Call (Int × ClevoLeds)}
    {leds : ClevoLeds} (asks : first.Asks NotSpecs)
    (later : ∀ value state,
      ReportsAs activeClevoInterface firmware (attempts value) (loop value)
        leds state)
    (state : σ) :
    ReportsAs activeClevoInterface firmware (first >>= attempts)
      (first >>= loop) leds state := by
  have rest :=
    later (first.run firmware state).1 (first.run firmware state).2
  exact
    { report := by
        rw [Program.trace_bind, Program.run_bind, firstReport_append,
          firstReport_of_notSpecs firmware asks, Option.none_or]
        exact rest.report
      next := by
        rw [Program.run_bind, Program.run_bind]
        exact rest.next }

/-- The rest of an attempt after a buffer that reports nothing.  What lies
behind a short buffer is no report, even if it ends the loop. -/
theorem reportsAs_of_noReport {bytes : List U8} {leds : ClevoLeds}
    (noReport : reportedType bytes = none)
    {attempts : Call (Option U8)} {loop : ClevoLeds → Call (Int × ClevoLeds)}
    (later : ∀ type state,
      ReportsAs activeClevoInterface firmware attempts
        (loop { leds with backlightType := type }) leds state)
    (object : Option AcpiObject) (state : σ) :
    ReportsAs activeClevoInterface firmware
      (do
        let type ← readByte bytes[0x0f]?
        if type ≠ clevoKbBacklightTypeNone then
          return reportedType bytes
        else
          acpiFree object
          attempts)
      (do
        let type ← readByte bytes[0x0f]?
        let leds := { leds with backlightType := type }
        if type ≠ clevoKbBacklightTypeNone then
          getBiosFeatures2 activeClevoInterface leds
        else
          acpiFree object
          loop leds) leds state := by
  apply ReportsAs.after activeClevoInterface firmware (readByte_notSpecs _)
  intro type after
  by_cases named : type ≠ clevoKbBacklightTypeNone
  · have silent :
        firstReport
          ((getBiosFeatures2 activeClevoInterface
            { leds with backlightType := type }).trace firmware after) =
          none :=
      firstReport_of_notSpecs firmware
        (getBiosFeatures2_notSpecs activeClevoInterface _) after
    simp only [if_pos named, noReport]
    exact ⟨silent, fun reported same => nomatch same⟩
  · simp only [if_neg named]
    exact
      ReportsAs.after activeClevoInterface firmware
        (acpiFree_notSpecs object) (fun _ => later type) after

/-- An attempt whose call reports nothing. -/
theorem ReportsAs.afterCall {attempts : MethodReturn → Call (Option U8)}
    {loop : MethodReturn → Call (Int × ClevoLeds)} {leds : ClevoLeds}
    {reply : MethodReturn} {state after : σ}
    (answered :
      (clevoEvaluateMethod2 activeClevoInterface 0x0d 0 true).run firmware
        state = (reply, after))
    (silent : replyReport reply = none)
    (later :
      ReportsAs activeClevoInterface firmware (attempts reply) (loop reply)
        leds after) :
    ReportsAs activeClevoInterface firmware
      (clevoEvaluateMethod2 activeClevoInterface 0x0d 0 true >>= attempts)
      (clevoEvaluateMethod2 activeClevoInterface 0x0d 0 true >>= loop) leds
      state where
  report := by
    rw [Program.trace_bind, Program.run_bind, firstReport_append,
      firstReport_getSpecs, answered, silent, Option.none_or]
    exact later.report
  next := by
    rw [Program.run_bind, Program.run_bind, answered]
    exact later.next

/-- An attempt that reports a type. -/
theorem reportsAs_of_report {attempts : Nat} {status : Int}
    {leds : ClevoLeds} {bytes : List U8} {type : U8} {state after : σ}
    (answered :
      (clevoEvaluateMethod2 activeClevoInterface 0x0d 0 true).run firmware
        state = (⟨0, some (.buffer bytes)⟩, after))
    (reported : reportedType bytes = some type) :
    ReportsAs activeClevoInterface firmware
      (askSpecs activeClevoInterface (attempts + 1))
      (getSpecs activeClevoInterface (attempts + 1) status leds) leds
      state := by
  obtain ⟨long, namedType⟩ := Option.filter_eq_some_iff.mp reported
  have named : type ≠ clevoKbBacklightTypeNone :=
    of_decide_eq_true namedType
  have asked :
      (askSpecs activeClevoInterface (attempts + 1)).run firmware state =
        (some type, after) := by
    simp only [askSpecs, Program.run_bind, answered, if_true, readObject,
      Program.run_pure, long, readByte, if_pos named, reported]
  have looped :
      (getSpecs activeClevoInterface (attempts + 1) status leds).run firmware
          state =
        (getBiosFeatures2 activeClevoInterface
          { leds with backlightType := type }).run firmware after := by
    simp only [getSpecs, Program.run_bind, answered, if_true, readObject,
      Program.run_pure, long, readByte, if_pos named]
  have traced :
      firstReport
          ((getSpecs activeClevoInterface (attempts + 1) status leds).trace
            firmware state) =
        some type := by
    rw [getSpecs, Program.trace_bind, firstReport_append,
      firstReport_getSpecs, answered]
    change (reportedType bytes).or _ = _
    rw [reported, Option.some_or]
  exact
    { report := by
        rw [traced, asked]
      next := by
        intro other same
        rw [asked] at same ⊢
        cases same
        exact ⟨named, looped⟩ }

/-- The loop reports what the attempts by themselves report. -/
theorem getSpecs_reports (attempts : Nat) (status : Int) (leds : ClevoLeds)
    (state : σ) :
    ReportsAs activeClevoInterface firmware
      (askSpecs activeClevoInterface attempts)
      (getSpecs activeClevoInterface attempts status leds) leds state := by
  induction attempts generalizing status leds state with
  | zero =>
      exact ⟨rfl, fun type reported => nomatch reported⟩
  | succ attempts inductionHypothesis =>
      have delivers :=
        clevoEvaluateMethod2_delivers firmware activeClevoInterface 0x0d 0
          state
      rcases answered :
          (clevoEvaluateMethod2 activeClevoInterface 0x0d 0 true).run
            firmware state with ⟨⟨replyStatus, stored⟩, after⟩
      rw [answered] at delivers
      by_cases success : replyStatus = 0
      · obtain ⟨object, stores, -⟩ := delivers success
        change stored = some object at stores
        rw [success, stores] at answered
        cases object with
        | integer value =>
            apply ReportsAs.afterCall activeClevoInterface firmware answered
            · rfl
            · exact
                ReportsAs.after activeClevoInterface firmware
                  (acpiFree_notSpecs _)
                  (fun _ => inductionHypothesis (-einval) leds) after
        | other =>
            apply ReportsAs.afterCall activeClevoInterface firmware answered
            · rfl
            · exact
                ReportsAs.after activeClevoInterface firmware
                  (acpiFree_notSpecs _)
                  (fun _ => inductionHypothesis (-einval) leds) after
        | buffer bytes =>
            cases reported : reportedType bytes with
            | none =>
                apply
                  ReportsAs.afterCall activeClevoInterface firmware answered
                · exact reported
                · apply
                    reportsAs_of_noReport activeClevoInterface firmware
                      reported
                  intro type later
                  have rest :=
                    inductionHypothesis 0 { leds with backlightType := type }
                      later
                  exact ⟨rest.report, rest.next⟩
            | some type =>
                exact
                  reportsAs_of_report activeClevoInterface firmware answered
                    reported
      · apply ReportsAs.afterCall activeClevoInterface firmware answered
        · exact if_neg success
        · simp only [if_neg success]
          exact inductionHypothesis replyStatus leds after

/-! ### The rest of the set-up -/

theorem getBiosFeatures1_notSpecs (leds : ClevoLeds) :
    (getBiosFeatures1 activeClevoInterface leds).Asks NotSpecs := by
  refine
    (clevoEvaluateMethod_notSpecs activeClevoInterface (by decide)
      (by decide) 0).bind fun features => ?_
  refine Program.Asks.ite (fun _ => ?_) fun _ => trivial
  refine Program.Asks.ite (fun _ => trivial) fun _ => ?_
  refine Program.Asks.ite (fun _ => ?_) fun _ => trivial
  exact (getBiosFeatures2_notSpecs activeClevoInterface _).map _

/-- A part of the set-up that asks for no type and leaves the one that was
found. -/
abbrev KeepsType (type : U8) (program : Call ClevoLeds) : Prop :=
  program.Gives NotSpecs fun leds => leds.backlightType = type

theorem clevoLedsSetBrightness_keepsType (leds : ClevoLeds)
    (brightness : U32) :
    KeepsType leds.backlightType
      (clevoLedsSetBrightness activeClevoInterface leds brightness) := by
  refine Program.Gives.after ?_ fun ret => ?_
  · exact
      (clevoEvaluateMethod_notSpecs activeClevoInterface (by decide)
        (by decide) _).map _
  · by_cases failed : ret ≠ 0
    · rw [if_pos failed]
      exact Program.gives_pure rfl
    · rw [if_neg failed]
      exact Program.gives_pure rfl

theorem clevoLedsSetBrightnessMc_keepsType (leds : ClevoLeds)
    (zone : Fin 3) (brightness : U32) :
    KeepsType leds.backlightType
      (clevoLedsSetBrightnessMc activeClevoInterface leds zone
        brightness) := by
  have evaluates : ∀ arg,
      (Prod.fst <$>
        clevoEvaluateMethod activeClevoInterface 0x67 arg).Asks NotSpecs :=
    fun arg =>
      (clevoEvaluateMethod_notSpecs activeClevoInterface (by decide)
        (by decide) arg).map Prod.fst
  refine Program.Gives.after (evaluates _) fun ret => ?_
  refine Program.Gives.ite (fun _ => Program.gives_pure rfl) fun _ => ?_
  exact
    Program.Gives.after (evaluates _) fun _ => Program.gives_pure rfl

theorem clevoLedsSetBrightnessExtern_keepsType (leds : ClevoLeds)
    (brightness : U32) :
    KeepsType leds.backlightType
      (clevoLedsSetBrightnessExtern activeClevoInterface leds
        brightness) := by
  have oneZone := fun leds zone =>
    clevoLedsSetBrightnessMc_keepsType activeClevoInterface leds zone
      brightness
  refine Program.Gives.ite (fun _ => ?_) fun _ => ?_
  · exact clevoLedsSetBrightness_keepsType activeClevoInterface leds _
  refine Program.Gives.ite (fun _ => oneZone leds 0) fun _ => ?_
  refine
    Program.Gives.ite (fun _ => ?_) fun _ => Program.gives_pure rfl
  refine (oneZone leds 0).bind fun first firstSame => ?_
  refine (firstSame ▸ oneZone first 1).bind fun second secondSame => ?_
  exact secondSame ▸ oneZone second 2

theorem clevoLedsSetColorExtern_keepsType (leds : ClevoLeds)
    (color : U32) :
    KeepsType leds.backlightType
      (clevoLedsSetColorExtern activeClevoInterface leds color) := by
  have oneZone : ∀ (leds : ClevoLeds) (zone : Fin 3),
      KeepsType leds.backlightType
        (setZoneColor activeClevoInterface leds zone color) :=
    fun leds zone =>
      clevoLedsSetBrightnessMc_keepsType activeClevoInterface
        { leds with zones := Function.update leds.zones zone _ } zone _
  refine Program.Gives.ite (fun _ => oneZone leds 0) fun _ => ?_
  refine
    Program.Gives.ite (fun _ => ?_) fun _ => Program.gives_pure rfl
  refine (oneZone leds 0).bind fun first firstSame => ?_
  refine (firstSame ▸ oneZone first 1).bind fun second secondSame => ?_
  exact secondSame ▸ oneZone second 2

theorem registerLeds_keepsType (registrations : LedRegistrations)
    (leds : ClevoLeds) :
    (registerLeds activeClevoInterface registrations leds).Gives NotSpecs
      fun ended => ended.2.backlightType = leds.backlightType := by
  have enabled :
      (clevoEvaluateSetKeyboardStatus activeClevoInterface 1).Asks
        NotSpecs :=
    (clevoEvaluateMethod_notSpecs activeClevoInterface (by decide)
      (by decide) _).map Prod.fst
  have done : ∀ status (ready : ClevoLeds),
      ready.backlightType = leds.backlightType →
        (pure (status, ready) : Call (Int × ClevoLeds)).Gives NotSpecs
          fun ended => ended.2.backlightType = leds.backlightType :=
    fun _ _ same => Program.gives_pure same
  refine Program.Gives.ite (fun _ => ?_) fun _ => ?_
  · exact Program.Gives.ite (fun _ => done _ _ rfl) fun _ => done _ _ rfl
  refine Program.Gives.ite (fun _ => ?_) fun _ => ?_
  · refine Program.Gives.after enabled fun _ => ?_
    exact Program.Gives.ite (fun _ => done _ _ rfl) fun _ => done _ _ rfl
  refine Program.Gives.ite (fun _ => ?_) fun _ => done _ _ rfl
  refine Program.Gives.after enabled fun _ => ?_
  refine Program.Gives.ite (fun _ => done _ _ rfl) fun _ => ?_
  refine Program.Gives.ite (fun _ => done _ _ rfl) fun _ => ?_
  exact Program.Gives.ite (fun _ => done _ _ rfl) fun _ => done _ _ rfl

theorem firstReport_bind {program : Call ClevoLeds}
    {rest : ClevoLeds → Call (Int × ClevoLeds)}
    (keeps : ∀ leds, (rest leds).Gives NotSpecs
      fun ended => ended.2.backlightType = leds.backlightType)
    (state : σ) :
    firstReport ((program >>= rest).trace firmware state) =
        firstReport (program.trace firmware state) ∧
      ((program >>= rest).run firmware state).1.2.backlightType =
        (program.run firmware state).1.backlightType := by
  rw [Program.trace_bind, Program.run_bind, firstReport_append,
    firstReport_of_notSpecs firmware (keeps _).asks, Option.or_none]
  exact ⟨rfl, (keeps _).run firmware _⟩

/-- What follows the search for a type neither reports nor changes one. -/
theorem clevoLedsInit_rest (dmi : Dmi) (registrations : LedRegistrations)
    (leds : ClevoLeds) (state : σ) :
    firstReport
        ((clevoLedsInit activeClevoInterface dmi registrations leds).trace
          firmware state) =
        firstReport
          ((findBacklightType activeClevoInterface leds).trace firmware
            state) ∧
      ((clevoLedsInit activeClevoInterface dmi registrations leds).run
          firmware state).1.2.backlightType =
        ((findBacklightType activeClevoInterface leds).run firmware
          state).1.backlightType := by
  refine firstReport_bind firmware (fun found => ?_) state
  extract_lets steps register
  have sameType : steps.backlightType = found.backlightType := by
    unfold steps
    split <;> rfl
  have registers : ∀ set : ClevoLeds,
      set.backlightType = steps.backlightType →
        (register set).Gives NotSpecs
          fun ended => ended.2.backlightType = found.backlightType := by
    intro set setSame
    rw [← sameType, ← setSame]
    exact registerLeds_keepsType activeClevoInterface registrations set
  refine Program.Gives.ite (fun _ => ?_) fun _ => ?_
  · have sets :=
      clevoLedsSetBrightnessExtern_keepsType activeClevoInterface steps
        steps.brightness
    exact sets.bind registers
  · have sets :=
      clevoLedsSetColorExtern_keepsType activeClevoInterface steps
        clevoKbColorDefault
    exact sets.bind registers

/-- The part of `clevo_leds_init` that decides the type, after a report. -/
theorem findBacklightType_report (leds : ClevoLeds) (state : σ) :
    firstReport
        ((findBacklightType activeClevoInterface leds).trace firmware
          state) =
      ((askSpecs activeClevoInterface 3).run firmware state).1 := by
  have loop :=
    (getSpecs_reports activeClevoInterface firmware 3 0 leds state).report
  rw [findBacklightType, Program.trace_bind, firstReport_append, loop]
  generalize
    (getSpecs activeClevoInterface 3 0 leds).run firmware state = specs
  obtain ⟨⟨status, found⟩, after⟩ := specs
  have asks :
      (if status ≠ 0 ∨ found.backlightType = clevoKbBacklightTypeNone then
        getBiosFeatures1 activeClevoInterface found
      else pure found).Asks NotSpecs :=
    Program.Asks.ite
      (fun _ => getBiosFeatures1_notSpecs activeClevoInterface found)
      fun _ => trivial
  exact (congrArg _ (firstReport_of_notSpecs firmware asks after)).trans
    (Option.or_none)

theorem getBiosFeatures2_run (leds : ClevoLeds) (state : σ) :
    let steps :=
      (clevoEvaluateMethod activeClevoInterface 0x7a 0).run firmware state
    ((getBiosFeatures2 activeClevoInterface leds).run firmware state).1.1 =
        steps.1.1 ∧
      ((getBiosFeatures2 activeClevoInterface leds).run firmware
          state).1.2.backlightType = leds.backlightType ∧
      ((getBiosFeatures2 activeClevoInterface leds).run firmware state).2 =
        steps.2 := by
  intro steps
  rw [getBiosFeatures2, Program.run_bind]
  split
  · split <;> exact ⟨rfl, rfl, rfl⟩
  · exact ⟨rfl, rfl, rfl⟩

theorem getBiosFeatures1_run (leds : ClevoLeds) (state : σ) :
    ((getBiosFeatures1 activeClevoInterface leds).run firmware
        state).1.backlightType =
      (featuresType
        ((clevoEvaluateMethod activeClevoInterface 0x52 0).run firmware
          state).1).getD leds.backlightType := by
  rw [getBiosFeatures1, Program.run_bind, featuresType]
  split
  · split
    · rfl
    · split
      · rw [Program.run_map]
        exact
          (getBiosFeatures2_run activeClevoInterface firmware _ _).2.1
      · rfl
  · rfl

/-! ### The reported type -/

section Reported

variable {activeClevoInterface firmware} {state : σ} {type : U8}
  (reported :
    ((askSpecs activeClevoInterface 3).run firmware state).1 = some type)

include reported

/-- After a report the question about the brightness steps decides whether
the fallback is entered. -/
theorem fallbackDecides_iff_of_report (leds : ClevoLeds) :
    FallbackDecides activeClevoInterface firmware leds state ↔
      ¬ FeaturesAgree activeClevoInterface firmware state := by
  obtain ⟨named, loopRun⟩ :=
    (getSpecs_reports activeClevoInterface firmware 3 0 leds state).next type
      reported
  obtain ⟨status, sameType, after⟩ :=
    getBiosFeatures2_run activeClevoInterface firmware
      { leds with backlightType := type }
      ((askSpecs activeClevoInterface 3).run firmware state).2
  simp only [FallbackDecides, FeaturesAgree, loopRun, status, sameType,
    after, reported, named, or_false, ne_eq, reduceCtorEq,
    not_false_eq_true, true_implies, not_or]

theorem backlightType_of_report (leds : ClevoLeds)
    (agree : FeaturesAgree activeClevoInterface firmware state) :
    ((findBacklightType activeClevoInterface leds).run firmware
      state).1.backlightType = type := by
  obtain ⟨named, loopRun⟩ :=
    (getSpecs_reports activeClevoInterface firmware 3 0 leds state).next type
      reported
  obtain ⟨status, sameType, after⟩ :=
    getBiosFeatures2_run activeClevoInterface firmware
      { leds with backlightType := type }
      ((askSpecs activeClevoInterface 3).run firmware state).2
  have reports :
      ((askSpecs activeClevoInterface 3).run firmware state).1 ≠ none := by
    rw [reported]
    exact Option.some_ne_none type
  rw [findBacklightType, Program.run_bind, loopRun]
  dsimp only
  rw [status, sameType]
  by_cases succeeds :
      ((clevoEvaluateMethod activeClevoInterface 0x7a 0).run firmware
        ((askSpecs activeClevoInterface 3).run firmware state).2).1.1 = 0
  · rw [if_neg (not_or.mpr ⟨not_not_intro succeeds, named⟩)]
    exact sameType
  · have noType := (agree reports).resolve_left succeeds
    rw [if_pos (Or.inl succeeds), getBiosFeatures1_run, after, noType,
      Option.getD_none]
    exact sameType

end Reported

/-- The set-up ends with the first type that is reported, and the fallback
decides only when none is, exactly if after a report the question about the
brightness steps succeeds or the one about the older features gives no
type. -/
theorem reportedTypeFinal_iff (dmi : Dmi)
    (registrations : LedRegistrations) (leds : ClevoLeds) (state : σ) :
    ReportedTypeFinal activeClevoInterface firmware dmi registrations leds
        state ↔
      FeaturesAgree activeClevoInterface firmware state := by
  obtain ⟨sameReport, sameType⟩ :=
    clevoLedsInit_rest activeClevoInterface firmware dmi registrations leds
      state
  have report :=
    sameReport.trans
      (findBacklightType_report activeClevoInterface firmware leds state)
  constructor
  · intro isFinal
    by_cases silent :
        ((askSpecs activeClevoInterface 3).run firmware state).1 = none
    · exact fun reports => absurd silent reports
    · obtain ⟨type, reported⟩ := Option.ne_none_iff_exists'.mp silent
      by_contra disagree
      have decides :=
        (fallbackDecides_iff_of_report reported leds).mpr disagree
      exact silent (report.symm.trans (isFinal.fallback decides))
  · intro agree
    constructor
    · intro init type reported
      rw [report] at reported
      rw [sameType]
      exact backlightType_of_report reported leds agree
    · intro decides
      rw [report]
      by_contra reports
      obtain ⟨type, reported⟩ := Option.ne_none_iff_exists'.mp reports
      exact (fallbackDecides_iff_of_report reported leds).mp decides agree

end Run

end Leds

/-- Firmware that reports a keyboard with one zone, does not know the steps
of brightness and has the older feature of a white keyboard. -/
def oneZoneFirmware : Firmware Unit
  | .wmiEvaluateMethod methodId _, _ =>
      if methodId = 0x0d then
        (.success (some (.buffer (List.replicate 15 0 ++ [0x06]))), ())
      else if methodId = 0x52 then
        (.success (some (.integer 0x40000000)), ())
      else (.failure, ())
  | .acpiEvaluateDsm _ _, _ => (none, ())
  | .activeDriverData, _ => (false, ())
  | .acpiDeviceHandle, _ => (false, ())
  | .strayObject, _ => (.other, ())
  | .strayByte, _ => (0, ())
  | .acpiFree _, _ => ((), ())

/-- The keyboard with one zone is set up as a white one. -/
theorem clevoLedsInit_oneZone :
    let init := clevoLedsInit (some .wmi) (fun _ => none) {} {}
    firstReport (init.trace oneZoneFirmware ()) =
        some clevoKbBacklightType1ZoneRgb ∧
      (init.run oneZoneFirmware ()).1.2.backlightType =
        clevoKbBacklightTypeFixedColor ∧
      ¬ ReportedTypeFinal (some .wmi) oneZoneFirmware (fun _ => none) {} {}
        () := by
  have reported :
      firstReport
          ((clevoLedsInit (some .wmi) (fun _ => none) {} {}).trace
            oneZoneFirmware ()) =
        some clevoKbBacklightType1ZoneRgb := by
    rfl
  have white :
      ((clevoLedsInit (some .wmi) (fun _ => none) {} {}).run
          oneZoneFirmware ()).1.2.backlightType =
        clevoKbBacklightTypeFixedColor := by
    rfl
  refine ⟨reported, white, fun isFinal => ?_⟩
  have oneZone := isFinal.final clevoKbBacklightType1ZoneRgb reported
  rw [white] at oneZone
  exact absurd oneZone (by decide)

end TuxedoDrivers.Clevo
