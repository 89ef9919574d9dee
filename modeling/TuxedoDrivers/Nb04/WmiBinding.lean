import TuxedoDrivers.Interaction.Runs
import TuxedoDrivers.Nb04.WmiMethods

/-!
# Binding of the NB04 devices

Probes that succeed or fail, removals and calls from other modules come in any
order after `nb04_wmi_ab` or `nb04_wmi_bs` is loaded.  Both keep the device in
a variable.  The results say which histories use it only while it is bound.
-/

namespace TuxedoDrivers.WmiBinding

open Interaction
open TuxedoDrivers.Nb04
open TuxedoDrivers.Wmi

/-- A module with the calls it exports; a call tells whether it returned
something else than an error or `false`. -/
structure Nb04Driver (Call : Type) where
  probe : Device → Methods Int
  remove : Device → Methods Unit
  call : Call → Methods Bool

inductive AbCall where
  | buffer (wmiMethodId : U32)
      (input : Vector U8 abInputBufferLengthNormal)
  | bufferReducedOutput (wmiMethodId : U32)
      (input : Vector U8 abInputBufferLengthNormal)
  | extendedInput (wmiMethodId : U32)
      (input : Vector U8 abInputBufferLengthExtended)
  | intOut (wmiMethodId : U32)
      (input : Vector U8 abInputBufferLengthNormal)

def AbCall.succeeds : AbCall → Methods Bool
  | .buffer wmiMethodId input =>
      Except.isOk <$> nb04WmiAbMethodBuffer wmiMethodId input
  | .bufferReducedOutput wmiMethodId input =>
      Except.isOk <$> nb04WmiAbMethodBufferReducedOutput wmiMethodId input
  | .extendedInput wmiMethodId input =>
      Except.isOk <$> nb04WmiAbMethodExtendedInput wmiMethodId input
  | .intOut wmiMethodId input =>
      Except.isOk <$> nb04WmiAbMethodIntOut wmiMethodId input

inductive BsCall where
  | available
  | method (wmiMethodId : U32) (input : Vector U8 bsInputBufferLength)

def BsCall.succeeds : BsCall → Methods Bool
  | .available => nb04WmiBsAvailable
  | .method wmiMethodId input =>
      Except.isOk <$> nb04WmiBsMethod wmiMethodId input

def nb04WmiAb : Nb04Driver AbCall where
  probe := tuxedoNb04WmiAbProbe
  remove := tuxedoNb04WmiAbRemove
  call := AbCall.succeeds

def nb04WmiBs : Nb04Driver BsCall where
  probe := tuxedoNb04WmiProbe
  remove := tuxedoNb04WmiRemove
  call := BsCall.succeeds

/-- How the kernel and the firmware answer during one step. -/
structure Nb04Answers where
  compatible : Bool
  hasGuid : Bool
  allocated : Bool
  reply : Reply
  deriving DecidableEq, Repr

/-- The state is the variable that holds the device. -/
def Nb04Answers.environment (answers : Nb04Answers) :
    Environment wmiSignature (Option Device)
  | .getWmiDev, wmiDev => (wmiDev, wmiDev)
  | .setWmiDev device, _ => ((), device)
  | .evaluateMethod _ _ _, wmiDev => (answers.reply, wmiDev)
  | .tuxedoIsCompatible, wmiDev => (answers.compatible, wmiDev)
  | .wmiHasGuid, wmiDev => (answers.hasGuid, wmiDev)
  | .devmKzalloc _, wmiDev => (answers.allocated, wmiDev)
  | .setDrvdata _, wmiDev => ((), wmiDev)

inductive Nb04Event (Call : Type) where
  | probe (device : Device)
  | remove (device : Device)
  | call (call : Call)

structure Nb04Step (Call : Type) where
  event : Nb04Event Call
  answers : Nb04Answers

/-- The devices that were probed successfully and not removed since. -/
structure Nb04Binding where
  wmiDev : Option Device
  bound : List Device
  deriving DecidableEq, Repr

/-- The module just loaded. -/
def Nb04Binding.loaded : Nb04Binding where
  wmiDev := none
  bound := []

variable {Call : Type}

/-- Only a device that is not bound is probed, and only one that is bound is
removed. -/
def Nb04Step.run (driver : Nb04Driver Call) (step : Nb04Step Call)
    (binding : Nb04Binding) : Nb04Binding :=
  let environment := step.answers.environment
  match step.event with
  | .probe device =>
      if device ∈ binding.bound then binding
      else
        let probed := (driver.probe device).run environment binding.wmiDev
        { wmiDev := probed.2
          bound :=
            if probed.1 = 0 then device :: binding.bound
            else binding.bound }
  | .remove device =>
      if device ∈ binding.bound then
        { wmiDev :=
            ((driver.remove device).run environment binding.wmiDev).2
          bound := binding.bound.erase device }
      else binding
  | .call call =>
      { binding with
        wmiDev := ((driver.call call).run environment binding.wmiDev).2 }

/-- The request uses this device. -/
def dereferences : WmiRequest → Device → Prop
  | .evaluateMethod device _ _, used => used = device
  | _, _ => False

/-- A call uses no device but one that is bound, and while none is it returns
an error or `false`. -/
structure GuardedCall (answers : Nb04Answers) (program : Methods Bool)
    (binding : Nb04Binding) : Prop where
  usesBound :
    ∀ event ∈ program.trace answers.environment binding.wmiDev,
      ∀ used, dereferences event.request used → used ∈ binding.bound
  refused :
    binding.bound = [] →
      (program.run answers.environment binding.wmiDev).1 = false

def Nb04Step.Guarded (driver : Nb04Driver Call) (step : Nb04Step Call)
    (binding : Nb04Binding) : Prop :=
  match step.event with
  | .call call => GuardedCall step.answers (driver.call call) binding
  | _ => True

/-- The variable points to a device that is bound. -/
def Nb04Binding.Published (binding : Nb04Binding) : Prop :=
  ∀ device, binding.wmiDev = some device → device ∈ binding.bound

/-! ## Calls -/

section Calls

variable (answers : Nb04Answers) (wmiDev : Option Device)

/-- A call that evaluates a method is guarded exactly while the variable
points to no device but one that is bound. -/
theorem guardedCall_wmiMethod_iff {α : Type} (result : Reply → Except Int α)
    (wmiMethodId : U32) (input : List U8) (binding : Nb04Binding) :
    GuardedCall answers (Except.isOk <$> wmiMethod result wmiMethodId input)
        binding ↔
      binding.Published := by
  obtain ⟨wmiDev, bound⟩ := binding
  constructor
  · rintro guarded device rfl
    have evaluates :
        ⟨.evaluateMethod device wmiMethodId input, answers.reply⟩ ∈
          (Except.isOk <$> wmiMethod result wmiMethodId input).trace
            answers.environment (some device) := by
      rw [Program.trace_map]
      exact List.mem_cons_of_mem _ List.mem_cons_self
    exact guarded.usesBound _ evaluates device rfl
  · intro published
    cases wmiDev with
    | none =>
        refine ⟨fun event member used uses => ?_, fun _ => rfl⟩
        rw [Program.trace_map] at member
        rcases List.mem_cons.mp member with rfl | later
        · exact uses.elim
        · cases later
    | some device =>
        have member := published device rfl
        refine ⟨fun event evaluated used uses => ?_, fun unbound => ?_⟩
        · rw [Program.trace_map] at evaluated
          rcases List.mem_cons.mp evaluated with rfl | later
          · exact uses.elim
          rcases List.mem_cons.mp later with rfl | later
          · cases uses
            exact member
          · cases later
        · exact absurd member (unbound ▸ List.not_mem_nil)

theorem run_wmiMethod_keeps {α : Type} (result : Reply → Except Int α)
    (wmiMethodId : U32) (input : List U8) :
    ((Except.isOk <$> wmiMethod result wmiMethodId input).run
        answers.environment wmiDev).2 =
      wmiDev := by
  rw [Program.run_map]
  cases wmiDev with
  | none => rfl
  | some device => rfl

theorem guardedCall_ab_iff (call : AbCall) (binding : Nb04Binding) :
    GuardedCall answers (nb04WmiAb.call call) binding ↔
      binding.Published := by
  cases call with
  | _ => apply guardedCall_wmiMethod_iff

theorem run_ab_keeps (call : AbCall) :
    ((nb04WmiAb.call call).run answers.environment wmiDev).2 = wmiDev := by
  cases call with
  | _ => apply run_wmiMethod_keeps

/-- `nb04_wmi_bs_available` uses no device and looks at the variable
alone. -/
theorem guardedCall_available_iff (binding : Nb04Binding) :
    GuardedCall answers (nb04WmiBs.call .available) binding ↔
      (binding.bound = [] → binding.wmiDev = none) := by
  constructor
  · intro guarded unbound
    have refused := guarded.refused unbound
    exact Option.not_isSome_iff_eq_none.mp (ne_true_of_eq_false refused)
  · intro cleared
    refine ⟨fun event member used uses => ?_, fun unbound => ?_⟩
    · rcases List.mem_cons.mp member with rfl | later
      · exact uses.elim
      · cases later
    · rw [cleared unbound]
      rfl

theorem run_bs_keeps (call : BsCall) :
    ((nb04WmiBs.call call).run answers.environment wmiDev).2 = wmiDev := by
  cases call with
  | available => rfl
  | method wmiMethodId input => apply run_wmiMethod_keeps

end Calls

/-! ## `nb04_wmi_ab` -/

theorem run_abProbe (answers : Nb04Answers) (wdev : Device)
    (wmiDev : Option Device) :
    (tuxedoNb04WmiAbProbe wdev).run answers.environment wmiDev =
      if answers.compatible = false then (-enodev, wmiDev)
      else if answers.hasGuid = false then (-enodev, wmiDev)
      else if answers.allocated = false then (-enomem, wmiDev)
      else (0, some wdev) := by
  simp only [tuxedoNb04WmiAbProbe, Program.run_bind, Program.run_ite]
  rfl

/-- A probe publishes its device last. -/
theorem published_abProbe (answers : Nb04Answers) {binding : Nb04Binding}
    (wdev : Device) (published : binding.Published) :
    Nb04Binding.Published
      { wmiDev :=
          ((tuxedoNb04WmiAbProbe wdev).run answers.environment
            binding.wmiDev).2
        bound :=
          if ((tuxedoNb04WmiAbProbe wdev).run answers.environment
              binding.wmiDev).1 = 0 then
            wdev :: binding.bound
          else binding.bound } := by
  rw [run_abProbe]
  by_cases incompatible : answers.compatible = false
  · rw [if_pos incompatible]
    exact published
  · rw [if_neg incompatible]
    by_cases missing : answers.hasGuid = false
    · rw [if_pos missing]
      exact published
    · rw [if_neg missing]
      by_cases unallocated : answers.allocated = false
      · rw [if_pos unallocated]
        exact published
      · rw [if_neg unallocated]
        intro device held
        cases held
        exact List.mem_cons_self

theorem published_run (step : Nb04Step AbCall) (binding : Nb04Binding)
    (published : binding.Published) :
    (step.run nb04WmiAb binding).Published := by
  obtain ⟨event, answers⟩ := step
  cases event with
  | probe device =>
      simp only [Nb04Step.run]
      split
      · exact published
      · exact published_abProbe answers device published
  | remove device =>
      simp only [Nb04Step.run]
      split
      · intro other held
        cases held
      · exact published
  | call call =>
      simp only [Nb04Step.run, run_ab_keeps]
      exact published

theorem guarded_of_published (step : Nb04Step AbCall)
    (binding : Nb04Binding) (published : binding.Published) :
    step.Guarded nb04WmiAb binding := by
  unfold Nb04Step.Guarded
  split
  case h_1 call _ =>
    exact (guardedCall_ab_iff step.answers call binding).mpr published
  case h_2 => trivial

theorem ab_guarded (steps : List (Nb04Step AbCall)) :
    EachStep (Nb04Step.run nb04WmiAb) (Nb04Step.Guarded nb04WmiAb) steps
      Nb04Binding.loaded := by
  apply eachStep_of_invariant guarded_of_published published_run
  intro device held
  cases held

/-! ## `nb04_wmi_bs` -/

/-- What the steps since the module was loaded say: the devices that are bound
and the device of the last probe that passed its checks, if one has. -/
structure BsHistory where
  bound : List Device
  latest : Option Device
  deriving DecidableEq, Repr

namespace BsHistory

def loaded : BsHistory where
  bound := []
  latest := none

def run (step : Nb04Step BsCall) (history : BsHistory) : BsHistory :=
  match step.event with
  | .probe device =>
      if device ∈ history.bound then history
      else if step.answers.compatible = true ∧
          step.answers.hasGuid = true then
        { bound :=
            if step.answers.allocated = true then device :: history.bound
            else history.bound
          latest := some device }
      else history
  | .remove device =>
      { history with bound := history.bound.erase device }
  | .call _ => history

/-- Once a probe has passed its checks, a method is called only while the
device of the last such probe is bound, and `nb04_wmi_bs_available` only while
some device is. -/
def Permits (step : Nb04Step BsCall) (history : BsHistory) : Prop :=
  match step.event with
  | .call (.method _ _) =>
      ∀ device, history.latest = some device → device ∈ history.bound
  | .call .available => history.bound = [] → history.latest = none
  | _ => True

/-- The variable is set by a probe that passes its checks and by nothing
else. -/
structure Describes (binding : Nb04Binding) (history : BsHistory) :
    Prop where
  bound : binding.bound = history.bound
  latest : binding.wmiDev = history.latest

variable {binding : Nb04Binding} {history : BsHistory}

theorem guarded_iff_permits (step : Nb04Step BsCall)
    (binding : Nb04Binding) (history : BsHistory)
    (describes : Describes binding history) :
    step.Guarded nb04WmiBs binding ↔ Permits step history := by
  obtain ⟨event, answers⟩ := step
  cases event with
  | probe device => exact Iff.rfl
  | remove device => exact Iff.rfl
  | call call =>
      cases call with
      | available =>
          simp only [Nb04Step.Guarded, Permits, guardedCall_available_iff,
            describes.bound, describes.latest]
      | method wmiMethodId input =>
          have guarded :=
            guardedCall_wmiMethod_iff answers
              (Reply.buffer bsOutputBufferLength (-einval)) wmiMethodId
              input.toList binding
          rw [Nb04Binding.Published, describes.bound, describes.latest]
            at guarded
          exact guarded

theorem run_bsProbe (answers : Nb04Answers) (wdev : Device)
    (wmiDev : Option Device) :
    (tuxedoNb04WmiProbe wdev).run answers.environment wmiDev =
      if answers.compatible = false then (-enodev, wmiDev)
      else if answers.hasGuid = false then (-enodev, wmiDev)
      else if answers.allocated = false then (-enomem, some wdev)
      else (0, some wdev) := by
  simp only [tuxedoNb04WmiProbe, Program.run_bind, Program.run_ite]
  rfl

theorem describes_probe (answers : Nb04Answers) (device : Device)
    (describes : Describes binding history) :
    Describes (Nb04Step.run nb04WmiBs ⟨.probe device, answers⟩ binding)
      (run ⟨.probe device, answers⟩ history) := by
  simp only [Nb04Step.run, run, ← describes.bound]
  by_cases already : device ∈ binding.bound
  · simp only [if_pos already]
    exact describes
  · simp only [if_neg already, nb04WmiBs, run_bsProbe]
    cases compatible : answers.compatible with
    | false => exact describes
    | true =>
        cases hasGuid : answers.hasGuid with
        | false => exact describes
        | true =>
            cases allocated : answers.allocated with
            | false => exact ⟨rfl, rfl⟩
            | true => exact ⟨rfl, rfl⟩

theorem describes_run (step : Nb04Step BsCall) (binding : Nb04Binding)
    (history : BsHistory) (describes : Describes binding history) :
    Describes (step.run nb04WmiBs binding) (run step history) := by
  obtain ⟨event, answers⟩ := step
  cases event with
  | probe device => exact describes_probe answers device describes
  | remove device =>
      simp only [Nb04Step.run, run]
      split
      · exact ⟨congrArg (List.erase · device) describes.bound,
          describes.latest⟩
      case isFalse absent =>
        rw [describes.bound] at absent
        rw [List.erase_of_not_mem absent]
        exact describes
  | call call =>
      simp only [Nb04Step.run, run, run_bs_keeps]
      exact describes

end BsHistory

theorem bs_guarded_iff (steps : List (Nb04Step BsCall)) :
    EachStep (Nb04Step.run nb04WmiBs) (Nb04Step.Guarded nb04WmiBs) steps
        Nb04Binding.loaded ↔
      EachStep BsHistory.run BsHistory.Permits steps BsHistory.loaded := by
  apply
    eachStep_iff_of_simulation BsHistory.guarded_iff_permits
      BsHistory.describes_run
  exact ⟨rfl, rfl⟩

end TuxedoDrivers.WmiBinding
