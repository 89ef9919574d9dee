import TuxedoDrivers.Interaction.Program
import TuxedoDrivers.Kernel

/-!
# HID devices with coloured LEDs

The two transfers the drivers of the ITE controllers make, and what the LED
class keeps of a multicolour LED.
-/

namespace TuxedoDrivers.Ite

open Interaction

/-! ## Transfers -/

inductive HidRequest where
  /-- `hid_hw_raw_request` with a feature report to set. -/
  | setFeatureReport (reportNumber : U8) (buf : List U8)
  /-- `ll_driver->output_report`. -/
  | outputReport (buf : List U8)
  deriving DecidableEq, Repr

abbrev hidSignature : Signature :=
  ⟨HidRequest, fun _ => Int⟩

abbrev Hid (α : Type) : Type :=
  Program hidSignature α

abbrev HidTransport (σ : Type) : Type :=
  Environment hidSignature σ

def hidHwRawRequest (reportNumber : U8) (buf : List U8) : Hid Int :=
  Program.request (S := hidSignature) (.setFeatureReport reportNumber buf)

def outputReport (buf : List U8) : Hid Int :=
  Program.request (S := hidSignature) (.outputReport buf)

/-- Every transfer succeeds. -/
def TransfersSucceed {σ : Type} (transport : HidTransport σ) : Prop :=
  ∀ request state, 0 ≤ (transport request state).1

section Transfers

variable {σ α β : Type} (transport : HidTransport σ) (state : σ)

/-- What a program transfers. -/
def transfers (program : Hid α) : List HidRequest :=
  (program.trace transport state).map Event.request

@[simp]
theorem transfers_pure (value : α) :
    transfers transport state (pure value) = [] :=
  rfl

@[simp]
theorem transfers_bind (program : Hid α) (rest : α → Hid β) :
    transfers transport state (program >>= rest) =
      transfers transport state program ++
        transfers transport (program.run transport state).2
          (rest (program.run transport state).1) := by
  simp only [transfers, Program.trace_bind, List.map_append]

/-- A loop transfers what its rounds transfer. -/
theorem transfers_forM {ι : Type} {body : ι → Hid PUnit}
    {each : ι → List HidRequest}
    (round : ∀ item reached, transfers transport reached (body item) =
      each item)
    (items : List ι) :
    transfers transport state (items.forM body) = items.flatMap each := by
  induction items generalizing state with
  | nil =>
      rfl
  | cons head tail inductionHypothesis =>
      rw [List.forM_eq_forM, List.forM_cons, transfers_bind, round,
        List.flatMap_cons]
      exact congrArg (each head ++ ·) (inductionHypothesis _)

@[simp]
theorem transfers_hidHwRawRequest (reportNumber : U8) (buf : List U8) :
    transfers transport state (hidHwRawRequest reportNumber buf) =
      [.setFeatureReport reportNumber buf] :=
  rfl

@[simp]
theorem transfers_outputReport (buf : List U8) :
    transfers transport state (outputReport buf) = [.outputReport buf] :=
  rfl

end Transfers

/-! ## LEDs -/

structure Colour where
  red : U8
  green : U8
  blue : U8
  deriving DecidableEq, Repr

/-- The `intensity` of the three entries of `subled_info`, in which the class
keeps what was last written to the LED. -/
structure Intensities where
  red : U32
  green : U32
  blue : U32
  deriving DecidableEq, Repr

/-- Converted to bytes, as the drivers take them. -/
def Intensities.colour (intensities : Intensities) : Colour :=
  ⟨intensities.red.setWidth 8, intensities.green.setWidth 8,
    intensities.blue.setWidth 8⟩

def Colour.intensities (colour : Colour) : Intensities :=
  ⟨colour.red.setWidth 32, colour.green.setWidth 32,
    colour.blue.setWidth 32⟩

@[simp]
theorem Colour.colour_intensities (colour : Colour) :
    colour.intensities.colour = colour := by
  simp [Colour.intensities, Intensities.colour]

/-- `struct led_classdev_mc`; the drivers give all three entries of
`subled_info` the same channel. -/
structure McLed where
  brightness : U32
  maxBrightness : U32
  intensities : Intensities
  channel : U32
  deriving DecidableEq, Repr

/-- `min(value, max)`. -/
def clampTo (max value : U32) : U32 :=
  if value < max then value else max

theorem clampTo_idem (max value : U32) :
    clampTo max (clampTo max value) = clampTo max value := by
  by_cases small : value < max
  · have same : clampTo max value = value := if_pos small
    rw [same, same]
  · have clamped : clampTo max value = max := if_neg small
    rw [clamped]
    exact if_neg (BitVec.lt_irrefl max)

/-- `led_set_brightness` up to the call of `brightness_set`, which gets the
brightness that is stored. -/
def McLed.setBrightness (led : McLed) (value : U32) : McLed :=
  { led with brightness := clampTo led.maxBrightness value }

/-- The LEDs of a keyboard by row and column. -/
abbrev LedArray (rows columns : Nat) : Type :=
  Fin rows → Fin columns → McLed

namespace LedArray

variable {rows columns : Nat}

/-- One LED replaced. -/
def replace (leds : LedArray rows columns) (row : Fin rows)
    (column : Fin columns) (led : McLed) : LedArray rows columns :=
  fun i j => if i = row ∧ j = column then led else leds i j

/-- All LEDs with this brightness. -/
def withBrightness (leds : LedArray rows columns) (brightness : U32) :
    LedArray rows columns :=
  fun i j => { leds i j with brightness }

end LedArray

end TuxedoDrivers.Ite
