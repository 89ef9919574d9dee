import TuxedoDrivers.Interaction.Expansion
import TuxedoDrivers.Io.IoctlDriver
import TuxedoDrivers.Io.IoctlRuns

/-!
# The accesses of a command

A command with its calls of the Uniwill driver, of `uw_set_tdp` and of
`uw_set_performance_profile_v1` expanded to the accesses that they make one by
one.  Nothing is locked, so another process can come in before any of them.
Without another process a command does what it does when every call is one
step.
-/

namespace TuxedoDrivers.Io.Ioctl

open Interaction Uniwill

/-! ## Accesses -/

/-- The requests of the module and those of the Uniwill driver. -/
abbrev accessSignature : Signature :=
  ioSignature.sum uniwillSignature

abbrev Accesses (α : Type) : Type :=
  Program accessSignature α

def isEcWrite : Event accessSignature → Bool
  | ⟨.inr (.writeEcRam _ _), _⟩ => true
  | _ => false

def accessOperation {α β : Type} (call : Accesses α) (report : α → β) :
    Accesses (OperationReturn β) :=
  (fun returned => ⟨report returned.1, returned.2⟩) <$>
    call.noting isEcWrite

/-- `uw_get_tdp_min` and `uw_get_tdp_max`, each with its own look at a
pointer. -/
def getTdpMin (tdpIndex : U8) : Handler Int := do
  let statics ← getStatics
  return uwGetTdpMin statics.tdpDefs tdpIndex

def getTdpMax (tdpIndex : U8) : Handler Int := do
  let statics ← getStatics
  return uwGetTdpMax statics.tdpDefs tdpIndex

/-- `tdp_data`; only the third limit needs `uw_feats`. -/
def tdpData (tdpIndex : U8) (tdpValue : Int) : Handler U8 := do
  if tdpIndex = 2 then
    let features ← derefUwFeats
    return BitVec.ofInt 8 (tdpToWrite features tdpIndex tdpValue)
  else
    return BitVec.ofInt 8 tdpValue

def writeTdpAccesses (tdpIndex : U8) (tdpValue : Int) : Accesses Int := do
  let minTdpStatus ← (getTdpMin tdpIndex).inl
  if minTdpStatus < 0 then
    return minTdpStatus
  else
    let tdpMin ← (getTdpMin tdpIndex).inl
    let tdpMax ← (getTdpMax tdpIndex).inl
    if tdpValue < tdpMin ∨ tdpValue > tdpMax then
      return -einval
    else
      let data ← (tdpData tdpIndex tdpValue).inl
      let _ ← (uniwillWriteEcRam (tdpCurrentAddr tdpIndex) data).inr
      return 0

/-- `uw_set_tdp`, access by access. -/
def uwSetTdpAccesses (tdpIndex : U8) (tdpValue : Int) : Accesses Int := do
  let features ← derefUwFeats.inl
  if features.uniwillCustomProfileModeNeeded = true then
    let _ ← (uwSetPerformanceProfileV1 profileOverboost).inr
    writeTdpAccesses tdpIndex tdpValue
  else
    writeTdpAccesses tdpIndex tdpValue

/-- The accesses of a request. -/
def accesses (dmi : Dmi) : (request : IoRequest) → Accesses request.Answer
  | .kernel .uniwillGetDeviceFeatures =>
      (fun _ => ()) <$> (uniwillGetDeviceFeatures dmi).inr
  | .kernel (.uniwillReadEcRam address) => (uniwillReadEcRam address).inr
  | .kernel (.uniwillWriteEcRam address data) =>
      accessOperation (uniwillWriteEcRam address data).inr EcWrite.status
  | .kernel (.uwSetFan fanIndex fanSpeed) =>
      accessOperation (uwSetFan fanIndex fanSpeed).inr id
  | .kernel .uwSetFanAuto => uwSetFanAuto.inr
  | .kernel (.uwSetTdp _ tdpIndex tdpValue) =>
      accessOperation (uwSetTdpAccesses tdpIndex tdpValue) id
  | .kernel (.uwSetPerformanceProfileV1 profile) =>
      accessOperation (uwSetPerformanceProfileV1 profile).inr id
  | request => Program.request (S := accessSignature) (.inl request)

/-- A command of a process, access by access. -/
def ioctlAccesses (dmi : Dmi) (command : IoctlCommand) (arg : U64) :
    Accesses Int :=
  (fopIoctl dmi command arg).expand (accesses dmi)

section Environment

variable {σ : Type} (device : EcDevice σ)
  (rest : Environment ioKernelSignature (Machine σ))
  (stray : DeviceFeatures)

/-- The world without the driver, whose code is run access by access. -/
def restWorld : IoWorld (Machine σ) where
  kernel := rest
  deviceFeatures machine := machine.1.uniwillDeviceFeatures
  strayFeatures _ := stray

def accessEnvironment :
    Environment accessSignature (IoStatics × Machine σ) :=
  (ioEnvironment (restWorld rest stray)).sum
    (device.environment.beside IoStatics)

@[simp]
theorem run_inl_access {α : Type} (program : Handler α)
    (state : IoStatics × Machine σ) :
    program.inl.run (accessEnvironment device rest stray) state =
      program.run (ioEnvironment (restWorld rest stray)) state :=
  Program.run_inl _ _ state program

@[simp]
theorem trace_inl_access {α : Type} (program : Handler α)
    (state : IoStatics × Machine σ) :
    program.inl.trace (accessEnvironment device rest stray) state =
      (program.trace (ioEnvironment (restWorld rest stray)) state).map
        Event.inl :=
  Program.trace_inl _ _ state program

@[simp]
theorem run_inr_access {α : Type} (program : Driver α)
    (state : IoStatics × Machine σ) :
    program.inr.run (accessEnvironment device rest stray) state =
      ((device.run program state.2).1, state.1,
        (device.run program state.2).2) := by
  rw [accessEnvironment, Program.run_inr, Program.run_beside]
  rfl

@[simp]
theorem trace_inr_access {α : Type} (program : Driver α)
    (state : IoStatics × Machine σ) :
    program.inr.trace (accessEnvironment device rest stray) state =
      (program.trace device.environment state.2).map Event.inr := by
  rw [accessEnvironment, Program.trace_inr, Program.trace_beside]

/-! ## Commands without another process -/

theorem any_isEcWrite {α : Type} (program : Driver α)
    (machine : Machine σ) :
    ((program.trace device.environment machine).map
        (Event.inr (S := ioSignature))).any isEcWrite =
      (device.trace program machine).any EcEvent.isWrite := by
  have each (event : Event uniwillSignature) :
      isEcWrite (Event.inr event) =
        ((ecEvent? event).map EcEvent.isWrite).getD false := by
    rcases event with ⟨address | ⟨address, data⟩ | update, answer⟩ <;> rfl
  rw [EcDevice.trace]
  induction program.trace device.environment machine with
  | nil =>
      rfl
  | cons event rest inductionHypothesis =>
      rw [List.map_cons, List.any_cons, each, inductionHypothesis,
        List.filterMap_cons]
      cases ecEvent? event with
      | none => exact Bool.false_or _
      | some access => rfl

theorem run_accessOperation {α β : Type} (program : Driver α)
    (report : α → β) (state : IoStatics × Machine σ) :
    (accessOperation program.inr report).run
        (accessEnvironment device rest stray) state =
      ((operationReturn device program report state.2).1, state.1,
        (operationReturn device program report state.2).2) := by
  simp only [accessOperation, Program.run_map, Program.run_noting,
    run_inr_access, trace_inr_access, any_isEcWrite]
  rfl

/-- Not `uw_set_tdp`, and `uw_feats` stays set. -/
def KeepsFeatures : IoRequest → Prop
  | .kernel (.uwSetTdp _ _ _) => False
  | .kernel _ => True
  | .features _ => True
  | .statics update => ∀ statics : IoStatics,
      statics.uwFeats = true → (update statics).uwFeats = true

/-- A call of the driver does what its accesses do. -/
theorem run_accesses (dmi : Dmi) {request : IoRequest}
    (keeps : KeepsFeatures request) (state : IoStatics × Machine σ) :
    (accesses dmi request).run (accessEnvironment device rest stray)
        state =
      ioEnvironment (driverWorld device dmi rest stray) request state := by
  cases request with
  | features uwFeats => rfl
  | statics update => rfl
  | kernel request =>
      cases request
      case uwSetTdp defs tdpIndex tdpValue =>
        exact keeps.elim
      case uniwillGetDeviceFeatures =>
        rw [accesses, Program.run_map, run_inr_access]
        rfl
      case uniwillReadEcRam address => rfl
      case uwSetFanAuto => exact run_inr_access device rest stray _ state
      case uniwillWriteEcRam | uwSetFan | uwSetPerformanceProfileV1 =>
        exact run_accessOperation device rest stray _ _ state
      all_goals rfl

section SetTdp

variable (tdpIndex : U8) (tdpValue : Int) (state : IoStatics × Machine σ)

theorem run_tdpData (identified : state.1.uwFeats = true) :
    (tdpData tdpIndex tdpValue).run (ioEnvironment (restWorld rest stray))
        state =
      (BitVec.ofInt 8
        (tdpToWrite state.2.1.uniwillDeviceFeatures tdpIndex tdpValue),
        state) := by
  by_cases third : tdpIndex = 2
  · rw [tdpData, if_pos third, Program.run_bind, run_derefUwFeats,
      if_pos identified]
    rfl
  · rw [tdpData, if_neg third, tdpToWrite_of_ne third]
    rfl

theorem trace_tdpData_any (world : IoWorld (Machine σ)) :
    (((tdpData tdpIndex tdpValue).trace (ioEnvironment world) state).map
      (Event.inl (T := uniwillSignature))).any isEcWrite = false := by
  by_cases third : tdpIndex = 2
  · rw [tdpData, if_pos third]
    rfl
  · rw [tdpData, if_neg third]
    rfl

/-- The accesses of `writeTdp`, and whether one of them writes. -/
theorem run_writeTdpAccesses (identified : state.1.uwFeats = true) :
    let call := writeTdp state.1.tdpDefs tdpIndex tdpValue
    let run := (writeTdpAccesses tdpIndex tdpValue).run
      (accessEnvironment device rest stray) state
    let trace := (writeTdpAccesses tdpIndex tdpValue).trace
      (accessEnvironment device rest stray) state
    run = ((device.run call state.2).1, state.1,
        (device.run call state.2).2) ∧
      trace.any isEcWrite =
        (device.trace call state.2).any EcEvent.isWrite := by
  intro call run trace
  obtain ⟨statics, machine⟩ := state
  have data :=
    run_tdpData rest stray tdpIndex tdpValue (statics, machine) identified
  have silent :=
    trace_tdpData_any tdpIndex tdpValue (statics, machine)
      (restWorld rest stray)
  have look : (getTdpMin tdpIndex).run
      (ioEnvironment (restWorld rest stray)) (statics, machine) =
        (uwGetTdpMin statics.tdpDefs tdpIndex, statics, machine) :=
    rfl
  have lookMax : (getTdpMax tdpIndex).run
      (ioEnvironment (restWorld rest stray)) (statics, machine) =
        (uwGetTdpMax statics.tdpDefs tdpIndex, statics, machine) :=
    rfl
  simp only [run, trace, call, writeTdpAccesses, writeTdp,
    Program.run_bind, Program.trace_bind, run_inl_access, trace_inl_access,
    look, lookMax, Program.run_ite, Program.trace_ite, run_ite, trace_ite]
  split
  · exact ⟨rfl, rfl⟩
  · split
    · exact ⟨rfl, rfl⟩
    · simp only [data, run_inr_access, trace_inr_access, List.any_append,
        silent]
      exact ⟨rfl, rfl⟩

/-- `uw_set_tdp` does what its accesses do. -/
theorem run_uwSetTdpAccesses (identified : state.1.uwFeats = true) :
    (accessOperation (uwSetTdpAccesses tdpIndex tdpValue) id).run
        (accessEnvironment device rest stray) state =
      ((operationReturn device
          (Io.uwSetTdp state.1.tdpDefs tdpIndex tdpValue) id state.2).1,
        state.1,
        (operationReturn device
          (Io.uwSetTdp state.1.tdpDefs tdpIndex tdpValue) id state.2).2) := by
  obtain ⟨statics, machine⟩ := state
  have features : derefUwFeats.run (ioEnvironment (restWorld rest stray))
      (statics, machine) =
        (machine.1.uniwillDeviceFeatures, statics, machine) := by
    rw [run_derefUwFeats, if_pos identified]
    rfl
  have written (reached : Machine σ) :=
    run_writeTdpAccesses device rest stray tdpIndex tdpValue
      (statics, reached) identified
  have profile :=
    any_isEcWrite device (uwSetPerformanceProfileV1 profileOverboost)
      machine
  simp only [accessOperation, Program.run_map, Program.run_noting,
    operationReturn, uwSetTdpAccesses, Io.uwSetTdp, Program.run_bind,
    Program.trace_bind, run_inl_access, trace_inl_access, features,
    run_bind, trace_bind, Uniwill.run_getStatics,
    Uniwill.trace_getStatics]
  by_cases needed :
      machine.1.uniwillDeviceFeatures.uniwillCustomProfileModeNeeded = true
  · obtain ⟨run, any⟩ :=
      written (device.run (uwSetPerformanceProfileV1 profileOverboost)
        machine).2
    simp only [if_pos needed, Program.run_bind, Program.trace_bind,
      run_inr_access, trace_inr_access, run_bind, trace_bind, run,
      List.any_append, any, profile]
    rfl
  · obtain ⟨run, any⟩ := written machine
    simp only [if_neg needed, run, List.any_append, any]
    rfl

end SetTdp

/-! ## Whole commands -/

section Agreement

variable (dmi : Dmi)

/-- Once the features are there, the accesses do what the program does with
the calls of the driver as one step each. -/
def Agrees {α : Type} (program : Handler α) : Prop :=
  ∀ state : IoStatics × Machine σ, state.1.uwFeats = true →
    let world := ioEnvironment (driverWorld device dmi rest stray)
    (program.expand (accesses dmi)).run
        (accessEnvironment device rest stray) state =
      program.run world state ∧
    (program.run world state).2.1.uwFeats = true

variable {device rest stray dmi} {α β : Type}

theorem Agrees.bind {program : Handler α} {next : α → Handler β}
    (first : Agrees device rest stray dmi program)
    (second : ∀ value, Agrees device rest stray dmi (next value)) :
    Agrees device rest stray dmi (program >>= next) := by
  intro state identified world
  obtain ⟨same, kept⟩ := first state identified
  rw [Program.expand_bind, Program.run_bind, Program.run_bind, same]
  exact second _ _ kept

theorem Agrees.ite {condition : Prop} [Decidable condition]
    {first second : Handler α}
    (ifTrue : Agrees device rest stray dmi first)
    (ifFalse : Agrees device rest stray dmi second) :
    Agrees device rest stray dmi
      (if condition then first else second) := by
  by_cases holds : condition
  · rw [if_pos holds]
    exact ifTrue
  · rw [if_neg holds]
    exact ifFalse

theorem agrees_pure (value : α) :
    Agrees device rest stray dmi (pure value) :=
  fun _ identified => ⟨rfl, identified⟩

theorem agrees_of_keepsFeatures {program : Handler α}
    (asks : program.Asks KeepsFeatures) :
    Agrees device rest stray dmi program := by
  intro state identified world
  have keeps (request : IoRequest) (reached : IoStatics × Machine σ)
      (allowed : KeepsFeatures request)
      (set : reached.1.uwFeats = true) :
      (world request reached).2.1.uwFeats = true := by
    cases request with
    | kernel request => exact set
    | features uwFeats => exact set
    | statics update => exact allowed reached.1 set
  constructor
  · apply Program.run_expand (fun request reached allowed _ =>
      run_accesses device rest stray dmi allowed reached) keeps asks
    exact identified
  · exact asks.run_preserves world
      (fun reached => reached.1.uwFeats = true) keeps identified

theorem agrees_uwSetTdp (tdpIndex : U8) (tdpValue : Int) :
    Agrees device rest stray dmi (uwSetTdp tdpIndex tdpValue) := by
  intro state identified world
  have set :=
    run_uwSetTdpAccesses device rest stray tdpIndex tdpValue state identified
  have expanded :
      ((uwSetTdp tdpIndex tdpValue).expand (accesses dmi)).run
          (accessEnvironment device rest stray) state =
        (accessOperation (uwSetTdpAccesses tdpIndex tdpValue) id >>=
          pure).run (accessEnvironment device rest stray) state :=
    rfl
  refine ⟨?_, identified⟩
  rw [expanded, bind_pure, set]
  rfl

theorem agrees_of_readOnly {program : Handler α}
    (asks : program.Asks ReadOnly) :
    Agrees device rest stray dmi program := by
  apply agrees_of_keepsFeatures
  apply asks.mono
  intro request readOnly
  cases request with
  | kernel request =>
      cases request <;> first | exact readOnly | trivial
  | features uwFeats => trivial
  | statics update =>
      intro statics set
      rw [readOnly statics]
      exact set

theorem agrees_of_kernelOnly {program : Handler α}
    (asks : program.Asks KernelOnly) :
    Agrees device rest stray dmi program :=
  agrees_of_readOnly (readOnly_of_kernelOnly asks)

theorem moduleCommand_keepsFeatures (arg : U64) (command : IoctlCommand) :
    (moduleCommand dmi arg command).Asks KeepsFeatures := by
  have set {update : IoStatics → IoStatics}
      (keeps : ∀ statics : IoStatics, statics.uwFeats = true →
        (update statics).uwFeats = true) :
      (setStatics update).Asks KeepsFeatures :=
    ⟨keeps, fun _ => trivial⟩
  have copied (result : U32) : (copyWord arg result).Asks KeepsFeatures :=
    ⟨trivial, fun _ => trivial⟩
  have features : derefUwFeats.Asks KeepsFeatures :=
    ⟨fun _ isSet => isSet, fun _ => ⟨trivial, fun _ => trivial⟩⟩
  have identify : (identifyUniwillDevice dmi).Asks KeepsFeatures := by
    refine Program.Asks.bind ⟨trivial, fun _ => trivial⟩ fun _ => ?_
    apply (set fun _ _ => rfl).bind
    intro _
    apply features.bind
    intro _
    apply (set fun _ isSet => isSet).bind
    exact fun _ => set fun _ isSet => isSet
  cases command
  case rModVersion =>
    exact ⟨trivial, fun _ => trivial⟩
  case rHwcheckCl =>
    refine Program.Asks.bind ⟨trivial, fun _ => trivial⟩ fun result => ?_
    apply (set fun _ isSet => isSet).bind
    exact fun _ => copied result
  case rHwcheckUw =>
    have identified : (uniwillIdentify dmi).Asks KeepsFeatures := by
      refine ⟨trivial, fun active => ?_⟩
      apply Program.Asks.ite
      · exact fun _ => identify.bind fun _ => trivial
      · exact fun _ => trivial
    apply identified.bind
    intro result
    apply (set fun _ isSet => isSet).bind
    exact fun _ => copied result
  all_goals trivial

theorem agrees_uniwillWriteCommand (arg : U64) (command : IoctlCommand) :
    Agrees device rest stray dmi (uniwillWriteCommand arg command) := by
  have copied : Agrees device rest stray dmi (copyArgument arg) :=
    agrees_of_kernelOnly (copyArgument_kernelOnly arg)
  have limit (tdpIndex : U8) :
      Agrees device rest stray dmi (writeTdpCommand tdpIndex arg) := by
    apply copied.bind
    intro argument
    apply (agrees_uwSetTdp tdpIndex argument.toInt).bind
    exact fun _ => agrees_pure ()
  cases command
  case wUwTdp0 | wUwTdp1 | wUwTdp2 =>
    exact limit _
  all_goals
    apply agrees_of_keepsFeatures
  case wUwFanspeed | wUwFanspeed2 | wUwMode | wUwPerfProf =>
    exact ⟨trivial, fun _ => ⟨trivial, fun _ => trivial⟩⟩
  case wUwFanauto =>
    exact ⟨trivial, fun _ => trivial⟩
  all_goals trivial

/-- A command that no other process disturbs does what it does with the calls
of the driver as one step each. -/
theorem run_ioctlAccesses (command : IoctlCommand) (arg : U64)
    {state : IoStatics × Machine σ} (identified : state.1.uwFeats = true) :
    (ioctlAccesses dmi command arg).run
        (accessEnvironment device rest stray) state =
      (fopIoctl dmi command arg).run
        (ioEnvironment (driverWorld device dmi rest stray)) state := by
  have general : Agrees device rest stray dmi
      (moduleCommand dmi arg command) :=
    agrees_of_keepsFeatures (moduleCommand_keepsFeatures arg command)
  have clevo : Agrees device rest stray dmi
      (clevoIoctlInterface dmi command arg) :=
    agrees_of_kernelOnly (clevoIoctlInterface_kernelOnly dmi arg command)
  have uniwill : Agrees device rest stray dmi
      (uniwillIoctlInterface command arg) := by
    apply (agrees_of_readOnly (uniwillReadCommand_readOnly arg command)).bind
    intro _
    apply (agrees_uniwillWriteCommand arg command).bind
    exact fun _ => agrees_pure 0
  have whole : Agrees device rest stray dmi (fopIoctl dmi command arg) := by
    apply general.bind
    intro _
    apply clevo.bind
    intro status
    apply Agrees.ite
    · exact agrees_pure _
    · apply uniwill.bind
      exact fun _ => Agrees.ite (agrees_pure _) (agrees_pure _)
  exact (whole state identified).1

end Agreement

end Environment

end TuxedoDrivers.Io.Ioctl
