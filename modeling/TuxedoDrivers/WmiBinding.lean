import TuxedoDrivers.Nb04.WmiBinding
import TuxedoDrivers.Nb05.ProfileBinding

/-!
# Binding of the WMI devices

Three modules keep a WMI device in a variable.  The main result says which
histories use it only while it is bound.
-/

namespace TuxedoDrivers.WmiBinding

open Interaction

open PowerProfiles in
/-- After every history since the modules were loaded, no device is used but
one that is bound and has its driver data, and calls that find none are
refused: of `nb04_wmi_ab` in every history, of `nb04_wmi_bs` where the device
of the last probe that passed its checks is bound when a method is called, and
of `nb05_power_profiles` where the device of the last probe is bound when the
work is executed or the attribute is read or stored. -/
theorem devices_guarded_iff (abSteps : List (Nb04Step AbCall))
    (bsSteps : List (Nb04Step BsCall)) (profileSteps : List ProfileStep) :
    EachStep (Nb04Step.run nb04WmiAb) (Nb04Step.Guarded nb04WmiAb) abSteps
        Nb04Binding.loaded ∧
      (EachStep (Nb04Step.run nb04WmiBs) (Nb04Step.Guarded nb04WmiBs)
          bsSteps Nb04Binding.loaded ↔
        EachStep BsHistory.run BsHistory.Permits bsSteps
          BsHistory.loaded) ∧
      (EachStep ProfileStep.run ProfileStep.Guarded profileSteps
          ProfileBinding.loaded ↔
        EachStep ProfileHistory.run ProfileHistory.Timely profileSteps
          ProfileHistory.loaded) :=
  ⟨ab_guarded abSteps, bs_guarded_iff bsSteps,
    profiles_guarded_iff profileSteps⟩

def nb04Succeeds : Nb04Answers where
  compatible := true
  hasGuid := true
  allocated := true
  reply := .failure

/-- A device is bound and removed again, and then somebody asks whether it is
available. -/
def availableAfterRemove : List (Nb04Step BsCall) :=
  [⟨.probe 0, nb04Succeeds⟩, ⟨.remove 0, nb04Succeeds⟩,
    ⟨.call .available, nb04Succeeds⟩]

open PowerProfiles in
def profilesSucceed : ProfileAnswers where
  compatible := true
  hasGuid := true
  allocated := true
  registered := true
  createGroup := 0
  evaluate _ := .success (some (.integer 0))

open PowerProfiles in
/-- A device is bound, the user changes the mode, and the work that this
queues is executed after the device is removed. -/
def workAfterRemove : List ProfileStep :=
  [⟨.probe 0, profilesSucceed⟩,
    ⟨.notify (some (.buffer [0, 0x12, 0, 0])), profilesSucceed⟩,
    ⟨.remove 0, profilesSucceed⟩, ⟨.workExecution, profilesSucceed⟩]

/-- The answer to the question is `true`. -/
theorem not_eachStep_availableAfterRemove :
    ¬ EachStep (Nb04Step.run nb04WmiBs) (Nb04Step.Guarded nb04WmiBs)
      availableAfterRemove Nb04Binding.loaded := by
  rintro ⟨_, _, guarded, _⟩
  have refused := GuardedCall.refused guarded rfl
  cases refused

open PowerProfiles in
/-- The work looks for the driver data of the device. -/
theorem not_eachStep_workAfterRemove :
    ¬ EachStep ProfileStep.run ProfileStep.Guarded workAfterRemove
      ProfileBinding.loaded := by
  rintro ⟨_, _, _, guarded, _⟩
  have uses := (uses_workExecution_iff rfl).mp (guarded trivial)
  obtain ⟨device, _, member, _⟩ := uses
  cases member

open PowerProfiles in
/-- The variables still hold the device after it is removed. -/
theorem device_used_after_remove :
    ¬ EachStep (Nb04Step.run nb04WmiBs) (Nb04Step.Guarded nb04WmiBs)
        availableAfterRemove Nb04Binding.loaded ∧
      ¬ EachStep ProfileStep.run ProfileStep.Guarded workAfterRemove
        ProfileBinding.loaded :=
  ⟨not_eachStep_availableAfterRemove, not_eachStep_workAfterRemove⟩

end TuxedoDrivers.WmiBinding
