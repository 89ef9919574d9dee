import TuxedoDrivers.Clevo.FlexichargerProtocols

/-!
# What calls of the active interface do to a view

The firmware as far as a setting goes: a view of its state that only the
evaluation of a method can change.  A call on an interface that is ready is
then one evaluation, from a state with the same view.
-/

namespace TuxedoDrivers.Clevo

open Interaction

section Views

variable {σ τ : Type} (firmware : Firmware σ) (interface : ClevoInterface)
  (view : σ → τ)

/-- The interface is ready, and only an evaluation changes the view. -/
structure Ready : Prop where
  driverData : interface = .acpi →
    ∀ state, (firmware .activeDriverData state).1 = true
  deviceHandle : interface = .acpi →
    ∀ state, (firmware .acpiDeviceHandle state).1 = true
  keepsUncalled : ∀ (request : ClevoRequest) state,
    request.evaluates = false →
      view (firmware request state).2 = view state

/-- What the caller gets of the object that an evaluation returns. -/
def Returned (object : Option AcpiObject) (result : MethodReturn) : Prop :=
  match object with
  | some object => result = ⟨0, some object⟩
  | none => result.status < 0

variable {firmware interface view}

/-- The ACPI driver evaluates the method once. -/
theorem Ready.run_acpi (ready : Ready firmware .acpi view) (cmd : U8)
    (argument : DsmArgument) (state : σ) :
    ∃ reached, view reached = view state ∧
      let evaluated :=
        firmware (.acpiEvaluateDsm (cmd.setWidth 64) argument) reached
      let called := Program.run firmware (do
          let present ← activeDriverData
          if present = true then
            clevoAcpiEvaluateDsm cmd argument true
          else
            return ⟨-enodata, none⟩) state
      called.2 = evaluated.2 ∧ Returned evaluated.1 called.1 := by
  have present := ready.driverData rfl state
  have handle := ready.deviceHandle rfl (firmware .activeDriverData state).2
  have valid : guidParse clevoAcpiDsmUuid = 0 := by decide
  refine
    ⟨(firmware .acpiDeviceHandle
      (firmware .activeDriverData state).2).2, ?_, ?_⟩
  · rw [ready.keepsUncalled .acpiDeviceHandle _ rfl,
      ready.keepsUncalled .activeDriverData _ rfl]
  · simp only [clevoAcpiEvaluateDsm, Program.run_bind, run_activeDriverData,
      present, if_true, valid, lt_irrefl, if_false, run_acpiDeviceHandle,
      handle, Bool.true_eq_false, run_acpiEvaluateDsm]
    rcases firmware (.acpiEvaluateDsm (cmd.setWidth 64) argument)
        (firmware .acpiDeviceHandle
          (firmware .activeDriverData state).2).2 with
      ⟨_ | object, after⟩ <;> simp [Returned]

theorem Ready.run_clevoEvaluateMethod2
    (ready : Ready firmware interface view)
    (cmd : U8) (arg : U32) (state : σ) :
    ∃ reached, view reached = view state ∧
      let evaluated := evaluation firmware interface cmd arg reached
      let called :=
        (clevoEvaluateMethod2 (some interface) cmd arg true).run firmware
          state
      called.2 = evaluated.2 ∧ Returned evaluated.1 called.1 := by
  cases interface with
  | wmi =>
      refine ⟨state, rfl, ?_⟩
      simp only [clevoEvaluateMethod2, ClevoInterface.methodCall,
        clevoWmiInterfaceMethodCall, clevoWmiEvaluate, evaluation,
        Program.run_bind, run_wmiEvaluateMethod]
      rcases firmware (.wmiEvaluateMethod (cmd.setWidth 32) arg) state with
        ⟨_ | _ | object, after⟩ <;> simp [Returned]
  | acpi =>
      exact ready.run_acpi cmd (.integer (arg.setWidth 64)) state

/-- The status tells what came of the evaluation, and nothing after it
changes the view. -/
theorem Ready.run_clevoEvaluateMethod
    (ready : Ready firmware interface view)
    (cmd : U8) (arg : U32) (state : σ) :
    ∃ reached, view reached = view state ∧
      let evaluated := evaluation firmware interface cmd arg reached
      let called :=
        (clevoEvaluateMethod (some interface) cmd arg).run firmware state
      view called.2 = view evaluated.2 ∧
        ∀ value, evaluated.1 = some (.integer value) →
          called.1 = (0, some (value.setWidth 32)) := by
  obtain ⟨reached, same, ends, returned⟩ :=
    ready.run_clevoEvaluateMethod2 cmd arg state
  refine ⟨reached, same, ?_⟩
  simp only [clevoEvaluateMethod, Program.run_bind]
  generalize (clevoEvaluateMethod2 (some interface) cmd arg true).run
    firmware state = reply at ends returned ⊢
  obtain ⟨⟨status, stored⟩, after⟩ := reply
  simp only at ends returned
  subst ends
  have uncalled (request : ClevoRequest) (later : σ)
      (notEvaluated : request.evaluates = false) :=
    ready.keepsUncalled request later notEvaluated
  by_cases success : status = 0
  · simp only [success, ne_eq, not_true_eq_false, if_false,
      Program.run_bind]
    constructor
    · have object :
          view ((readObject stored).run firmware
              (evaluation firmware interface cmd arg reached).2).2 =
            view (evaluation firmware interface cmd arg reached).2 := by
        cases stored with
        | none => exact uncalled .strayObject _ rfl
        | some object => rfl
      split <;>
        exact (uncalled (.acpiFree stored) _ rfl).trans object
    · intro value isInteger
      simp only [Returned, isInteger] at returned
      cases returned
      rfl
  · rw [if_pos success]
    refine ⟨rfl, fun value isInteger => ?_⟩
    simp only [Returned, isInteger, MethodReturn.mk.injEq] at returned
    exact absurd returned.1 success

theorem Ready.run_clevoEvaluateMethodPkgbuf
    (ready : Ready firmware .acpi view) (cmd : U8) (arg : List U8)
    (state : σ) :
    ∃ reached, view reached = view state ∧
      let evaluated :=
        firmware (.acpiEvaluateDsm (cmd.setWidth 64) (.buffer arg)) reached
      let called :=
        (clevoEvaluateMethodPkgbuf (some .acpi) cmd arg true).run firmware
          state
      called.2 = evaluated.2 ∧ Returned evaluated.1 called.1 :=
  ready.run_acpi cmd (.buffer arg) state

end Views

end TuxedoDrivers.Clevo
