import TuxedoDrivers.Tuxi.FanControl

/-!
# Errors of TUXI methods

A method reports an error by a value that is negative as a signed number, or
it cannot be evaluated.  The getters with an unsigned variable, and the one
without a check, take such a value for a reading.
-/

namespace TuxedoDrivers.Tuxi

open Interaction

/-- The evaluation failed or the value is negative. -/
def IsError (answer : Option U64) : Prop :=
  ∀ retval ∈ answer, signedNegative retval = true

theorem isError_none : IsError none :=
  nofun

theorem isError_some_iff {retval : U64} :
    IsError (some retval) ↔ signedNegative retval = true := by
  constructor
  · intro error
    exact error retval rfl
  · intro negative other member
    cases member
    exact negative

/-- The method that a sensor is read with. -/
def readMethod : HwmonSensorType → HwmonFanAttr → Int →
    Option (String × List U64)
  | .temp, _, channel =>
      some ("GTMP", [(BitVec.ofInt 8 channel).setWidth 64])
  | .fan, .input, channel =>
      some ("GRPM", [(BitVec.ofInt 8 channel).setWidth 64])
  | _, _, _ => none

section Readings

variable {σ : Type} (environment : Environment tuxiSignature σ) (state : σ)

/-- A getter fails on an error and leaves its output as it was; otherwise it
succeeds. -/
def PassesErrors {α : Type} (pathname : String) (args : List U64)
    (getter : α → Acpi (Int × α)) : Prop :=
  ∀ left,
    (IsError (methodAnswer environment state pathname args) →
      ((getter left).run environment state).1.1 < 0 ∧
        ((getter left).run environment state).1.2 = left) ∧
    (¬ IsError (methodAnswer environment state pathname args) →
      ((getter left).run environment state).1.1 = 0)

/-- What is read does not depend on what the variables held before, and an
error of the method that is read is passed on. -/
def UsesReadings {α β : Type} (read : Option (String × List U64))
    (consumer : α → Acpi (Except Int β)) : Prop :=
  (∀ left other,
    ((consumer left).run environment state).1 =
      ((consumer other).run environment state).1) ∧
  ∀ method ∈ read, IsError (methodAnswer environment state method.1 method.2) →
    ∀ left, ∃ err < 0,
      ((consumer left).run environment state).1 = .error err

/-- The method does not answer with a negative value. -/
def NotNegative (pathname : String) (args : List U64) : Prop :=
  ∀ retval ∈ methodAnswer environment state pathname args,
    signedNegative retval = false

variable {environment state}

/-! ## Getters -/

/-- A getter fails if the evaluation does, and otherwise by its own check. -/
theorem run_tuxiGet {α : Type} (environment : Environment tuxiSignature σ)
    (state : σ) (pathname : String) (args : List U64)
    (isError : U64 → Bool) (convert : U64 → α) :
    (∃ err < 0,
      methodAnswer environment state pathname args = none ∧
        ∀ left,
          ((tuxiGet pathname args isError convert left).run environment
            state).1 = (err, left)) ∨
    ∃ retval,
      methodAnswer environment state pathname args = some retval ∧
        ∀ left,
          ((tuxiGet pathname args isError convert left).run environment
            state).1 =
            if isError retval = true then (-einval, left)
            else (0, convert retval) := by
  rcases run_tfanMethod environment state pathname args with
    ⟨err, negative, failed, unanswered⟩ | ⟨retval, evaluated, answered⟩
  · apply Or.inl
    refine ⟨err, negative, unanswered, fun left => ?_⟩
    rw [tuxiGet, Program.run_bind, failed]
    rfl
  · apply Or.inr
    refine ⟨retval, answered, fun left => ?_⟩
    rw [tuxiGet, Program.run_bind, evaluated]
    simp only [Program.run_ite]
    split <;> rfl

/-- A getter passes errors on exactly where its check agrees with the sign. -/
theorem passesErrors_tuxiGet_iff {α : Type} [Inhabited α]
    (pathname : String) (args : List U64) (isError : U64 → Bool)
    (convert : U64 → α) :
    PassesErrors environment state pathname args
        (tuxiGet pathname args isError convert) ↔
      ∀ retval ∈ methodAnswer environment state pathname args,
        isError retval = signedNegative retval := by
  constructor
  · intro passes retval answered
    have passed := passes default
    rcases run_tuxiGet environment state pathname args isError convert with
      ⟨_, _, unanswered, _⟩ | ⟨other, sameAnswer, result⟩
    · rw [unanswered] at answered
      cases answered
    · have same : other = retval := by
        rw [sameAnswer] at answered
        exact Option.some.inj answered
      rw [result, sameAnswer, isError_some_iff, same] at passed
      cases checked : isError retval with
      | true =>
          cases negative : signedNegative retval with
          | true =>
              rfl
          | false =>
              rw [checked, negative] at passed
              have status : -einval = 0 := passed.2 Bool.false_ne_true
              exact absurd status (by decide)
      | false =>
          cases negative : signedNegative retval with
          | true =>
              rw [checked, negative] at passed
              exact absurd (passed.1 rfl).1 (Int.lt_irrefl 0)
          | false =>
              rfl
  · intro agrees left
    rcases run_tuxiGet environment state pathname args isError convert with
      ⟨err, negative, unanswered, result⟩ | ⟨retval, answered, result⟩
    · rw [result, unanswered]
      exact
        ⟨fun _ => ⟨negative, rfl⟩,
          fun noError => absurd isError_none noError⟩
    · rw [result, answered, isError_some_iff, agrees retval answered]
      have refused : -einval < 0 := by decide
      cases signedNegative retval with
      | true =>
          exact ⟨fun _ => ⟨refused, rfl⟩, fun noError => absurd rfl noError⟩
      | false =>
          exact ⟨nofun, fun _ => rfl⟩

/-- A check of the sign. -/
theorem passesErrors_signed {α : Type} [Inhabited α] (pathname : String)
    (args : List U64) (convert : U64 → α) :
    PassesErrors environment state pathname args
      (tuxiGet pathname args signedNegative convert) :=
  (passesErrors_tuxiGet_iff pathname args signedNegative convert).mpr
    fun _ _ => rfl

/-- A check that never fires. -/
theorem passesErrors_unchecked_iff {α : Type} [Inhabited α]
    (pathname : String) (args : List U64) {isError : U64 → Bool}
    (convert : U64 → α) (never : ∀ retval, isError retval = false) :
    PassesErrors environment state pathname args
        (tuxiGet pathname args isError convert) ↔
      NotNegative environment state pathname args := by
  rw [passesErrors_tuxiGet_iff]
  apply forall₂_congr
  intro retval answered
  rw [never retval, eq_comm]

/-- An unsigned variable is never negative. -/
theorem unsignedNegative_eq_false (retval : U64) :
    unsignedNegative retval = false := by
  simp [unsignedNegative, BitVec.ult]

/-! ## Consumers -/

/-- Reading a getter, or failing with its status. -/
def checkedReading {α β : Type} (getter : Acpi (Int × α))
    (reading : α → β) : Acpi (Except Int β) := do
  let result ← getter
  if result.1 ≠ 0 then return .error result.1
  else return .ok (reading result.2)

/-- Through a check that never fires, every value that a method answers is
read. -/
theorem run_checkedReading {α β : Type}
    (environment : Environment tuxiSignature σ) (state : σ)
    (pathname : String) (args : List U64) {isError : U64 → Bool}
    (convert : U64 → α) (reading : α → β)
    (never : ∀ retval, isError retval = false) :
    (∃ err < 0,
      methodAnswer environment state pathname args = none ∧
        ∀ left,
          ((checkedReading (tuxiGet pathname args isError convert left)
            reading).run environment state).1 = .error err) ∨
    ∃ retval,
      methodAnswer environment state pathname args = some retval ∧
        ∀ left,
          ((checkedReading (tuxiGet pathname args isError convert left)
            reading).run environment state).1 =
            .ok (reading (convert retval)) := by
  rcases run_tuxiGet environment state pathname args isError convert with
    ⟨err, negative, unanswered, failed⟩ | ⟨retval, answered, evaluated⟩
  · have nonzero : err ≠ 0 := Int.ne_of_lt negative
    apply Or.inl
    refine ⟨err, negative, unanswered, fun left => ?_⟩
    rw [checkedReading, Program.run_bind, failed, if_pos nonzero]
    rfl
  · apply Or.inr
    refine ⟨retval, answered, fun left => ?_⟩
    rw [checkedReading, Program.run_bind, evaluated, never retval]
    rfl

theorem usesReadings_checkedReading_iff {α β γ : Type} [Inhabited γ]
    (pathname : String) (args : List U64) {isError : U64 → Bool}
    (convert : U64 → α) (reading : α → β) (held : γ → α)
    (never : ∀ retval, isError retval = false) :
    UsesReadings environment state (some (pathname, args))
        (fun left => checkedReading
          (tuxiGet pathname args isError convert (held left)) reading) ↔
      NotNegative environment state pathname args := by
  rcases run_checkedReading environment state pathname args convert reading
      never with
    ⟨err, negative, unanswered, failed⟩ | ⟨retval, answered, read⟩
  · have notNegative : NotNegative environment state pathname args := by
      rw [NotNegative, unanswered]
      exact nofun
    refine iff_of_true ⟨fun left other => ?_, ?_⟩ notNegative
    · rw [failed, failed]
    · intro method member _ left
      exact ⟨err, negative, failed (held left)⟩
  · constructor
    · intro uses other sameAnswer
      cases sign : signedNegative other with
      | false =>
          rfl
      | true =>
          have isErrorAnswer :
              IsError (methodAnswer environment state pathname args) := by
            rw [sameAnswer]
            exact isError_some_iff.mpr sign
          obtain ⟨err, -, failed⟩ :=
            uses.2 (pathname, args) rfl isErrorAnswer default
          rw [read] at failed
          cases failed
    · intro notNegative
      refine ⟨fun left other => ?_, ?_⟩
      · rw [read, read]
      · intro method member isErrorAnswer
        cases member
        rw [answered, isError_some_iff, notNegative retval answered]
          at isErrorAnswer
        exact absurd isErrorAnswer Bool.false_ne_true

/-- The mode is shown without a look at the status. -/
theorem usesReadings_fanPwmEnableShow_iff :
    UsesReadings environment state (some ("GMOD", [])) fanPwmEnableShow ↔
      ¬ IsError (methodAnswer environment state "GMOD" []) := by
  constructor
  · intro uses isErrorAnswer
    obtain ⟨err, -, failed⟩ := uses.2 ("GMOD", []) rfl isErrorAnswer 0
    rw [fanPwmEnableShow, Program.run_bind] at failed
    cases failed
  · intro noError
    refine ⟨fun left other => ?_, ?_⟩
    · rcases run_tuxiGet environment state "GMOD" [] signedNegative
          enumOfByte with
        ⟨_, _, unanswered, _⟩ | ⟨retval, answered, evaluated⟩
      · rw [unanswered] at noError
        exact absurd isError_none noError
      · have sign : ¬ signedNegative retval = true := by
          rw [answered, isError_some_iff] at noError
          exact noError
        simp only [fanPwmEnableShow, tuxiGetFanMode, Program.run_bind,
          evaluated, if_neg sign]
        rfl
    · intro method member isErrorAnswer
      cases member
      exact absurd isErrorAnswer noError

/-- What reads no method and does not use its variables. -/
theorem usesReadings_of_constant {α β : Type}
    {consumer : α → Acpi (Except Int β)} (result : Except Int β)
    (constant : ∀ left, consumer left = pure result) :
    UsesReadings environment state none consumer := by
  refine ⟨fun left other => ?_, nofun⟩
  rw [constant left, constant other]

/-- The readings of the sensors are of methods whose getters do not check. -/
theorem usesReadings_hwmRead_iff (type : HwmonSensorType)
    (attr : HwmonFanAttr) (channel : Int) :
    UsesReadings environment state (readMethod type attr channel)
        (fun left : U16 × U16 => hwmRead type attr channel left.1 left.2) ↔
      ∀ method ∈ readMethod type attr channel,
        NotNegative environment state method.1 method.2 := by
  cases type with
  | temp =>
      simp only [readMethod, Option.mem_some_iff, forall_eq']
      exact
        usesReadings_checkedReading_iff "GTMP" _ _
          (fun temp : U16 => ((temp.toNat : Int) - 2730) * 100) Prod.fst
          unsignedNegative_eq_false
  | fan =>
      cases attr with
      | input =>
          simp only [readMethod, Option.mem_some_iff, forall_eq']
          exact
            usesReadings_checkedReading_iff "GRPM" _ _
              (fun rpm : U16 => (rpm.toNat : Int)) Prod.snd
              unsignedNegative_eq_false
      | min =>
          exact iff_of_true (usesReadings_of_constant _ fun _ => rfl) nofun
      | max =>
          exact iff_of_true (usesReadings_of_constant _ fun _ => rfl) nofun
      | other =>
          exact iff_of_true (usesReadings_of_constant _ fun _ => rfl) nofun
  | other =>
      exact iff_of_true (usesReadings_of_constant _ fun _ => rfl) nofun

end Readings

/-! ## All operations -/

inductive TuxiOperation where
  | getFanSpeed (fanIndex : U8)
  | getNrFans
  | getFanMode
  | getFanType (fanIndex : U8)
  | getFanTemp (index : U8)
  | getFanRpm (index : U8)
  | hwmRead (type : HwmonSensorType) (attr : HwmonFanAttr) (channel : Int)
  | fan1PwmEnableShow
  | fan2PwmEnableShow
  deriving DecidableEq, Repr

section Operations

variable {σ : Type} (environment : Environment tuxiSignature σ) (state : σ)

/-- No error of the firmware is taken for a reading. -/
def ErrorsNotTaken : TuxiOperation → Prop
  | .getFanSpeed fanIndex =>
      PassesErrors environment state "GSPD" [fanIndex.setWidth 64]
        (tuxiGetFanSpeed fanIndex)
  | .getNrFans => PassesErrors environment state "GCNT" [] tuxiGetNrFans
  | .getFanMode => PassesErrors environment state "GMOD" [] tuxiGetFanMode
  | .getFanType fanIndex =>
      PassesErrors environment state "GTYP" [fanIndex.setWidth 64]
        (tuxiGetFanType fanIndex)
  | .getFanTemp index =>
      PassesErrors environment state "GTMP" [index.setWidth 64]
        (tuxiGetFanTemp index)
  | .getFanRpm index =>
      PassesErrors environment state "GRPM" [index.setWidth 64]
        (tuxiGetFanRpm index)
  | .hwmRead type attr channel =>
      UsesReadings environment state (readMethod type attr channel)
        fun left : U16 × U16 => hwmRead type attr channel left.1 left.2
  | .fan1PwmEnableShow =>
      UsesReadings environment state (some ("GMOD", [])) fan1PwmEnableShow
  | .fan2PwmEnableShow =>
      UsesReadings environment state (some ("GMOD", [])) fan2PwmEnableShow

/-- What the firmware has to answer for that. -/
def AnswersTaken : TuxiOperation → Prop
  | .getNrFans => NotNegative environment state "GCNT" []
  | .getFanTemp index =>
      NotNegative environment state "GTMP" [index.setWidth 64]
  | .getFanRpm index =>
      NotNegative environment state "GRPM" [index.setWidth 64]
  | .hwmRead type attr channel =>
      ∀ method ∈ readMethod type attr channel,
        NotNegative environment state method.1 method.2
  | .fan1PwmEnableShow =>
      ¬ IsError (methodAnswer environment state "GMOD" [])
  | .fan2PwmEnableShow =>
      ¬ IsError (methodAnswer environment state "GMOD" [])
  | _ => True

theorem errorsNotTaken_iff (operation : TuxiOperation) :
    ErrorsNotTaken environment state operation ↔
      AnswersTaken environment state operation := by
  cases operation with
  | getFanSpeed fanIndex =>
      exact iff_of_true (passesErrors_signed _ _ _) trivial
  | getNrFans =>
      exact passesErrors_unchecked_iff "GCNT" [] _ fun _ => rfl
  | getFanMode =>
      exact iff_of_true (passesErrors_signed _ _ _) trivial
  | getFanType fanIndex =>
      exact iff_of_true (passesErrors_signed _ _ _) trivial
  | getFanTemp index =>
      exact passesErrors_unchecked_iff "GTMP" _ _ unsignedNegative_eq_false
  | getFanRpm index =>
      exact passesErrors_unchecked_iff "GRPM" _ _ unsignedNegative_eq_false
  | hwmRead type attr channel =>
      exact usesReadings_hwmRead_iff type attr channel
  | fan1PwmEnableShow =>
      exact usesReadings_fanPwmEnableShow_iff
  | fan2PwmEnableShow =>
      exact usesReadings_fanPwmEnableShow_iff

end Operations

/-- Firmware that answers every method with -1. -/
def failingFirmware : Environment tuxiSignature Unit
  | .getDriverData, _ => (some (some 1), ())
  | .evaluateInteger _ _ _, _ => (some (-1), ())

/-- The temperature read then is that of 65535 tenths of a Kelvin, and the mode
shown is whatever the variable held. -/
theorem negative_answers_are_readings :
    ¬ (ErrorsNotTaken failingFirmware () (.getFanTemp 0) ∨
      ErrorsNotTaken failingFirmware () (.hwmRead .temp .input 0) ∨
      ErrorsNotTaken failingFirmware () .fan1PwmEnableShow) ∧
    ((tuxiGetFanTemp 0 7).run failingFirmware ()).1 = (0, 0xffff) ∧
    ((hwmRead .temp .input 0 7 7).run failingFirmware ()).1 =
      .ok 6280500 := by
  have negative : signedNegative (-1) = true := by decide
  have isErrorAnswer := isError_some_iff.mpr negative
  refine ⟨?_, rfl, rfl⟩
  rintro (getter | sensor | mode)
  · exact absurd ((getter 7).1 isErrorAnswer).1 (by decide)
  · obtain ⟨err, -, failed⟩ := sensor.2 _ rfl isErrorAnswer (7, 7)
    cases failed
  · exact absurd (mode.1 0 1) (by decide)

end TuxedoDrivers.Tuxi
