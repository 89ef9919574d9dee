import TuxedoDrivers.Io.Ioctl

/-!
# Runs of a command

Which result a command has, which dispatchers it goes through, and what they
can ask for.
-/

namespace TuxedoDrivers.Io.Ioctl

open Interaction Uniwill

/-! ## Results -/

section Results

variable {σ : Type} (environment : Environment ioSignature σ)
  (dmi : Dmi) (command : IoctlCommand) (arg : U64) (state : σ)

/-- The state that the Clevo dispatcher finds. -/
def afterModule : σ :=
  ((moduleCommand dmi arg command).run environment state).2

/-- The state that the Uniwill dispatcher finds. -/
def afterClevo : σ :=
  ((clevoIoctlInterface dmi command arg).run environment
    (afterModule environment dmi command arg state)).2

/-- The devices on which a command is refused. -/
def refused : IoctlCommand → Bool
  | .rClWebcamSw => webcamReadRefused dmi
  | .wClWebcamSw => webcamWriteRefused dmi
  | _ => false

theorem run_clevoIoctlInterface :
    ((clevoIoctlInterface dmi command arg).run environment state).1 =
      if refused dmi command = true then -enodev else 0 := by
  cases command
  case rClWebcamSw =>
    by_cases isRefused : webcamReadRefused dmi = true <;>
      simp [clevoIoctlInterface, clevoReadCommand, clevoWriteCommand,
        refused, isRefused]
  case wClWebcamSw =>
    by_cases isRefused : webcamWriteRefused dmi = true <;>
      simp [clevoIoctlInterface, clevoReadCommand, clevoWriteCommand,
        refused, isRefused]
  all_goals
    simp [clevoIoctlInterface, clevoReadCommand, clevoWriteCommand, refused]

theorem run_uniwillIoctlInterface :
    ((uniwillIoctlInterface command arg).run environment state).1 = 0 := by
  simp [uniwillIoctlInterface]

/-- The error of a dispatcher comes out as a large positive number. -/
theorem run_fopIoctl :
    ((fopIoctl dmi command arg).run environment state).1 =
      if refused dmi command = true then 4294967296 - enodev else 0 := by
  have refusal : throughU32 (-enodev) = 4294967296 - enodev := by
    decide
  have success : throughU32 0 = 0 := by
    decide
  simp only [fopIoctl, Program.run_bind, run_clevoIoctlInterface,
    Program.run_ite, run_uniwillIoctlInterface]
  by_cases isRefused : refused dmi command = true
  · simp only [if_pos isRefused, refusal, Program.run_pure]
    rfl
  · simp only [if_neg isRefused, success, Program.run_pure]
    rfl

/-- Every dispatcher is run, unless the one before it refuses. -/
theorem trace_fopIoctl :
    (fopIoctl dmi command arg).trace environment state =
      (moduleCommand dmi arg command).trace environment state ++
        ((clevoIoctlInterface dmi command arg).trace environment
            (afterModule environment dmi command arg state) ++
          if refused dmi command = true then []
          else
            (uniwillIoctlInterface command arg).trace environment
              (afterClevo environment dmi command arg state)) := by
  have refusal : throughU32 (-enodev) ≠ 0 := by
    decide
  have success : ¬ throughU32 0 ≠ 0 := by
    decide
  simp only [fopIoctl, Program.trace_bind, run_clevoIoctlInterface,
    Program.trace_ite, run_uniwillIoctlInterface, Program.trace_pure]
  by_cases isRefused : refused dmi command = true
  · simp only [if_pos isRefused, if_pos refusal]
    rfl
  · simp only [if_neg isRefused, if_neg success, List.append_nil]
    rfl

end Results

/-! ## Requests -/

/-- What the dispatchers can ask for, a command can. -/
theorem fopIoctl_asks (dmi : Dmi) (arg : U64) {allowed : IoRequest → Prop}
    {command : IoctlCommand}
    (general : (moduleCommand dmi arg command).Asks allowed)
    (clevo : (clevoIoctlInterface dmi command arg).Asks allowed)
    (uniwill : (uniwillIoctlInterface command arg).Asks allowed) :
    (fopIoctl dmi command arg).Asks allowed := by
  refine general.bind fun _ => clevo.bind fun status => ?_
  refine Program.Asks.ite (fun _ => trivial) fun _ => ?_
  refine uniwill.bind fun _ => ?_
  exact Program.Asks.ite (fun _ => trivial) fun _ => trivial

/-- Only the kernel is asked, and nothing of the Uniwill driver. -/
def KernelOnly : IoRequest → Prop
  | .kernel .uniwillGetDeviceFeatures | .kernel (.uniwillReadEcRam _)
  | .kernel (.uniwillWriteEcRam _ _) | .kernel (.uwSetFan _ _)
  | .kernel .uwSetFanAuto | .kernel (.uwSetTdp _ _ _)
  | .kernel (.uwSetPerformanceProfileV1 _) => False
  | .kernel _ => True
  | .features _ => False
  | .statics _ => False

section KernelOnly

variable (dmi : Dmi) (arg : U64)

theorem copyText_kernelOnly (string : String) :
    (copyText arg string).Asks KernelOnly :=
  ⟨trivial, fun _ => trivial⟩

theorem copyWord_kernelOnly (result : U32) :
    (copyWord arg result).Asks KernelOnly :=
  ⟨trivial, fun _ => trivial⟩

theorem copyArgument_kernelOnly : (copyArgument arg).Asks KernelOnly :=
  ⟨trivial, fun _ => trivial⟩

theorem readMethod_kernelOnly (cmd : U8) :
    (readMethod cmd arg).Asks KernelOnly :=
  ⟨trivial, fun _ => copyWord_kernelOnly arg _⟩

theorem writeMethod_kernelOnly (cmd : U8) (toArgument : U32 → U32) :
    (writeMethod cmd toArgument arg).Asks KernelOnly :=
  (copyArgument_kernelOnly arg).bind fun _ => ⟨trivial, fun _ => trivial⟩

theorem writeWebcamSw_kernelOnly :
    (writeWebcamSw arg).Asks KernelOnly := by
  refine (copyArgument_kernelOnly arg).bind fun argument => ?_
  refine ⟨trivial, fun current => ?_⟩
  refine Program.Asks.ite (fun _ => ?_) fun _ => trivial
  exact ⟨trivial, fun _ => trivial⟩

theorem clevoReadCommand_kernelOnly (command : IoctlCommand) :
    (clevoReadCommand dmi arg command).Asks KernelOnly := by
  cases command
  case rClHwIfStr =>
    exact
      ⟨trivial, fun _ => (copyText_kernelOnly arg _).bind fun _ => trivial⟩
  case rClWebcamSw =>
    refine Program.Asks.ite (fun _ => trivial) fun _ => ?_
    exact (readMethod_kernelOnly arg _).bind fun _ => trivial
  case rClFaninfo1 | rClFaninfo2 | rClFaninfo3 | rClFlightmodeSw
    | rClTouchpadSw =>
    exact (readMethod_kernelOnly arg _).bind fun _ => trivial
  all_goals trivial

theorem clevoWriteCommand_kernelOnly (command : IoctlCommand) :
    (clevoWriteCommand dmi arg command).Asks KernelOnly := by
  cases command
  case wClFanspeed =>
    refine (writeMethod_kernelOnly arg _ _).bind fun _ => ?_
    exact ⟨trivial, fun _ => trivial⟩
  case wClWebcamSw =>
    refine Program.Asks.ite (fun _ => trivial) fun _ => ?_
    exact (writeWebcamSw_kernelOnly arg).bind fun _ => trivial
  case wClFanauto | wClFlightmodeSw | wClTouchpadSw | wClPerfProfile =>
    exact (writeMethod_kernelOnly arg _ _).bind fun _ => trivial
  all_goals trivial

/-- The Clevo dispatcher uses neither the variables nor the Uniwill
driver. -/
theorem clevoIoctlInterface_kernelOnly (command : IoctlCommand) :
    (clevoIoctlInterface dmi command arg).Asks KernelOnly := by
  refine (clevoReadCommand_kernelOnly dmi arg command).bind fun read => ?_
  cases read with
  | none =>
      exact
        (clevoWriteCommand_kernelOnly dmi arg command).bind fun _ => trivial
  | some status =>
      trivial

end KernelOnly

/-- Neither the EC nor a variable is changed. -/
def ReadOnly : IoRequest → Prop
  | .kernel .uniwillGetDeviceFeatures | .kernel (.uniwillWriteEcRam _ _)
  | .kernel (.uwSetFan _ _) | .kernel .uwSetFanAuto
  | .kernel (.uwSetTdp _ _ _) | .kernel (.uwSetPerformanceProfileV1 _) =>
      False
  | .kernel _ => True
  | .features _ => True
  | .statics update => ∀ statics, update statics = statics

section ReadOnly

variable (arg : U64)

theorem readOnly_of_kernelOnly {α : Type} {program : Handler α}
    (asks : program.Asks KernelOnly) : program.Asks ReadOnly := by
  apply asks.mono
  intro request kernelOnly
  cases request with
  | kernel request =>
      cases request <;> first | exact kernelOnly | trivial
  | features uwFeats =>
      trivial
  | statics update =>
      exact kernelOnly.elim

theorem copyWord_readOnly (result : U32) :
    (copyWord arg result).Asks ReadOnly :=
  readOnly_of_kernelOnly (copyWord_kernelOnly arg result)

theorem getStatics_readOnly : getStatics.Asks ReadOnly :=
  ⟨fun _ => rfl, fun _ => trivial⟩

theorem derefUwFeats_readOnly : derefUwFeats.Asks ReadOnly :=
  ⟨fun _ => rfl, fun _ => ⟨trivial, fun _ => trivial⟩⟩

theorem uwGetTdp_readOnly (tdpIndex : U8) :
    (uwGetTdp tdpIndex).Asks ReadOnly := by
  apply getStatics_readOnly.bind
  intro statics
  apply Program.Asks.ite
  · exact fun _ => trivial
  · intro _
    refine Program.Asks.bind ⟨trivial, fun _ => trivial⟩ fun tdpData => ?_
    apply Program.Asks.ite
    · exact fun _ => trivial
    · intro _
      refine Program.Asks.ite (fun _ => ?_) fun _ => trivial
      apply derefUwFeats_readOnly.bind
      exact fun _ => Program.Asks.ite (fun _ => trivial) fun _ => trivial

theorem readFanspeed_readOnly (address : U16) :
    (readFanspeed address arg).Asks ReadOnly := by
  refine Program.Asks.bind ⟨trivial, fun _ => trivial⟩ fun read => ?_
  exact derefUwFeats_readOnly.bind fun _ => copyWord_readOnly arg _

theorem uniwillReadCommand_readOnly (command : IoctlCommand) :
    (uniwillReadCommand arg command).Asks ReadOnly := by
  cases command
  case rUwModelId | rUwProfsAvailable =>
    exact derefUwFeats_readOnly.bind fun _ => copyWord_readOnly arg _
  case rUwFanspeed | rUwFanspeed2 =>
    exact readFanspeed_readOnly arg _
  case rUwTdp0 | rUwTdp1 | rUwTdp2 =>
    exact (uwGetTdp_readOnly _).bind fun _ => copyWord_readOnly arg _
  case rUwTdp0Min | rUwTdp1Min | rUwTdp2Min | rUwTdp0Max | rUwTdp1Max
    | rUwTdp2Max =>
    exact getStatics_readOnly.bind fun _ => copyWord_readOnly arg _
  case rUwHwIfStr | rUwFanTemp | rUwFanTemp2 | rUwMode | rUwModeEnable =>
    exact ⟨trivial, fun _ => ⟨trivial, fun _ => trivial⟩⟩
  case rUwFansOffAvailable | rUwFansMinSpeed =>
    exact copyWord_readOnly arg _
  all_goals trivial

end ReadOnly

/-! ## Frames -/

section Frames

variable {β : Type} (view : IoStatics → β)

/-- A request that leaves a view of the static variables as it is. -/
def KeepsView : IoRequest → Prop
  | .kernel _ => True
  | .features _ => True
  | .statics update => ∀ statics, view (update statics) = view statics

variable {view}

theorem keepsView_of_readOnly {α : Type} {program : Handler α}
    (asks : program.Asks ReadOnly) : program.Asks (KeepsView view) := by
  refine asks.mono fun request readOnly => ?_
  cases request with
  | kernel request =>
      trivial
  | features uwFeats =>
      trivial
  | statics update =>
      exact fun statics => congrArg view (readOnly statics)

theorem keepsView_of_kernelOnly {α : Type} {program : Handler α}
    (asks : program.Asks KernelOnly) : program.Asks (KeepsView view) :=
  keepsView_of_readOnly (readOnly_of_kernelOnly asks)

theorem setStatics_keepsView {update : IoStatics → IoStatics}
    (keeps : ∀ statics, view (update statics) = view statics) :
    (setStatics update).Asks (KeepsView view) :=
  ⟨keeps, fun _ => trivial⟩

theorem copyWord_keepsView (arg : U64) (result : U32) :
    (copyWord arg result).Asks (KeepsView view) :=
  keepsView_of_kernelOnly (copyWord_kernelOnly arg result)

theorem uwSetTdp_keepsView (tdpIndex : U8) (tdpValue : Int) :
    (uwSetTdp tdpIndex tdpValue).Asks (KeepsView view) := by
  refine (keepsView_of_readOnly derefUwFeats_readOnly).bind fun _ => ?_
  refine (keepsView_of_readOnly getStatics_readOnly).bind fun _ => ?_
  exact ⟨trivial, fun _ => trivial⟩

theorem uniwillWriteCommand_keepsView (arg : U64) (command : IoctlCommand) :
    (uniwillWriteCommand arg command).Asks (KeepsView view) := by
  cases command
  case wUwTdp0 | wUwTdp1 | wUwTdp2 =>
    refine Program.Asks.bind ⟨trivial, fun _ => trivial⟩ fun argument => ?_
    exact (uwSetTdp_keepsView _ _).bind fun _ => trivial
  case wUwFanspeed | wUwFanspeed2 | wUwMode | wUwPerfProf =>
    exact ⟨trivial, fun _ => ⟨trivial, fun _ => trivial⟩⟩
  case wUwFanauto =>
    exact ⟨trivial, fun _ => trivial⟩
  all_goals trivial

/-- The Uniwill dispatcher assigns to no variable. -/
theorem uniwillIoctlInterface_keepsView (command : IoctlCommand)
    (arg : U64) :
    (uniwillIoctlInterface command arg).Asks (KeepsView view) := by
  have reads : (uniwillReadCommand arg command).Asks (KeepsView view) :=
    keepsView_of_readOnly (uniwillReadCommand_readOnly arg command)
  refine reads.bind fun _ => ?_
  exact (uniwillWriteCommand_keepsView arg command).bind fun _ => trivial

theorem view_of_keepsView {σ α : Type} (world : IoWorld σ)
    {program : Handler α} (keeps : program.Asks (KeepsView view))
    (state : IoStatics × σ) :
    view (program.run (ioEnvironment world) state).2.1 = view state.1 := by
  refine
    keeps.run_preserves (ioEnvironment world)
      (fun reached => view reached.1 = view state.1) ?_ rfl
  rintro (request | uwFeats | update) reached allowed unchanged
  · exact unchanged
  · exact unchanged
  · exact (allowed reached.1).trans unchanged

end Frames

end TuxedoDrivers.Io.Ioctl
