import TuxedoDrivers.Io.Tdp

/-!
# Setting a TDP limit on an EC with failures

`uw_set_tdp` chooses the profile before it looks at the limit, and does not
look at the status of the write.  The main result says for which limits and
which outcomes of the accesses it is all or nothing nevertheless.
-/

namespace TuxedoDrivers.Io

open Interaction Uniwill

/-! ## Outcomes in their order -/

/-- The outcome of an access after `before` others. -/
def outcomeAfter (before : Nat) (state : FaultyRam) : AccessOutcome :=
  (state.outcomes.drop before).headD ⟨true, true, 0⟩

theorem data_faultyEc_read (address : U16) (state : FaultyRam) :
    (faultyEc.read address state).1.data =
      state.next.shown (state.ram address) := by
  simp only [faultyEc, AccessOutcome.shown]
  split <;> rfl

/-- A failed read is not taken for a profile that does not exist. -/
theorem status_faultyEc_read (address : U16) (state : FaultyRam) :
    BitVec.ofInt 32 (faultyEc.read address state).1.status ≠
      BitVec.ofInt 32 (-einval) := by
  have onSuccess : BitVec.ofInt 32 0 ≠ BitVec.ofInt 32 (-einval) := by
    decide
  have onFailure : BitVec.ofInt 32 (-eio) ≠ BitVec.ofInt 32 (-einval) := by
    decide
  simp only [faultyEc]
  split
  · exact onSuccess
  · exact onFailure

/-! ## The profile -/

/-- What the switch to the profile writes. -/
def overboostValue (current : U8) : U8 :=
  (current &&& ~~~(0xa0 ||| 0x10)) ||| 0x10

/-- The RAM after the switch to the profile. -/
def overboosted (state : FaultyRam) : Ram :=
  if (outcomeAfter 1 state).takesEffect = true then
    Function.update state.ram 0x0751
      (overboostValue ((outcomeAfter 0 state).shown (state.ram 0x0751)))
  else state.ram

theorem run_uwSetPerformanceProfileV1_overboost
    (machine : Machine FaultyRam) :
    (faultyEc.run (uwSetPerformanceProfileV1 profileOverboost) machine).2 =
      (machine.1,
        ⟨overboosted machine.2, machine.2.outcomes.tail.tail⟩) := by
  have exists3 : ∀ value result,
      performanceProfileValue profileOverboost value result =
        (value ||| 0x10, result) :=
    fun _ _ => rfl
  have notNegative : ∀ result : U32, 0 ≤ result := fun result =>
    Nat.zero_le result.toNat
  have valid := status_faultyEc_read 0x0751 machine.2
  simp only [uwSetPerformanceProfileV1, run_bind, run_uniwillReadEcRam,
    notNegative, if_true, exists3, ne_eq, valid, not_false_eq_true,
    run_uniwillWriteEcRam, run_pure, data_faultyEc_read]
  simp only [faultyEc, FaultyRam.next, overboosted, outcomeAfter,
    List.drop_zero, List.drop_one, overboostValue]
  rfl

theorem overboosted_eq_iff (state : FaultyRam) :
    overboosted state = state.ram ↔
      ((outcomeAfter 1 state).takesEffect = true →
        overboostValue ((outcomeAfter 0 state).shown (state.ram 0x0751)) =
          state.ram 0x0751) := by
  simp only [overboosted]
  split
  case isTrue takesEffect =>
    simp only [Function.update_eq_self_iff, takesEffect, forall_const]
  case isFalse ignored =>
    exact iff_of_true rfl fun takesEffect => absurd takesEffect ignored

/-! ## All or nothing -/

/-- The write of a limit that is accepted. -/
def tdpWrite (features : DeviceFeatures) (tdpIndex : U8) (tdpValue : Int) :
    EcWrite → EcEvent :=
  .write (tdpCurrentAddr tdpIndex)
    (BitVec.ofInt 8 (tdpToWrite features tdpIndex tdpValue))

section AllOrNothing

variable (defs : TdpPointers) (tdpIndex : U8) (tdpValue : Int)

/-- An error leaves the registers alone, and without one the limit has been
written successfully. -/
def AllOrNothing (machine : Machine FaultyRam) : Prop :=
  ((faultyEc.run (uwSetTdp defs tdpIndex tdpValue) machine).1 ≠ 0 →
    (faultyEc.run (uwSetTdp defs tdpIndex tdpValue) machine).2.2.ram =
      machine.2.ram) ∧
  ((faultyEc.run (uwSetTdp defs tdpIndex tdpValue) machine).1 = 0 →
    tdpWrite machine.1.uniwillDeviceFeatures tdpIndex tdpValue .ok ∈
      faultyEc.trace (uwSetTdp defs tdpIndex tdpValue) machine)

/-- The place of the write among the accesses. -/
def tdpWritePosition (features : DeviceFeatures) : Nat :=
  if features.uniwillCustomProfileModeNeeded = true then 2 else 0

/-- The write of an accepted limit succeeds, and the profile is not changed
for another one. -/
def KeepsPromise (machine : Machine FaultyRam) : Prop :=
  (AcceptedTdp defs tdpIndex tdpValue →
    (outcomeAfter (tdpWritePosition machine.1.uniwillDeviceFeatures)
      machine.2).succeeds = true) ∧
  (¬ AcceptedTdp defs tdpIndex tdpValue →
    machine.1.uniwillDeviceFeatures.uniwillCustomProfileModeNeeded = true →
    (outcomeAfter 1 machine.2).takesEffect = true →
    overboostValue
        ((outcomeAfter 0 machine.2).shown (machine.2.ram 0x0751)) =
      machine.2.ram 0x0751)

variable {defs tdpIndex tdpValue}

theorem writeTdp_of_accepted
    (accepted : AcceptedTdp defs tdpIndex tdpValue)
    (machine : Machine FaultyRam) :
    (faultyEc.run (writeTdp defs tdpIndex tdpValue) machine).1 = 0 ∧
      faultyEc.trace (writeTdp defs tdpIndex tdpValue) machine =
        [tdpWrite machine.1.uniwillDeviceFeatures tdpIndex tdpValue
          (if machine.2.next.succeeds = true then .ok else .fail)] := by
  obtain ⟨supported, atLeast, atMost⟩ := accepted
  have inside : ¬ (tdpValue < uwGetTdpMin defs tdpIndex ∨
      tdpValue > uwGetTdpMax defs tdpIndex) := by
    omega
  simp only [writeTdp, Int.not_lt.mpr supported, if_false, if_neg inside]
  exact ⟨rfl, rfl⟩

theorem writeTdp_of_not_accepted
    (rejected : ¬ AcceptedTdp defs tdpIndex tdpValue) :
    ∃ result : Int, result ≠ 0 ∧
      writeTdp defs tdpIndex tdpValue = pure result := by
  by_cases unsupported : uwGetTdpMin defs tdpIndex < 0
  · refine ⟨uwGetTdpMin defs tdpIndex, by omega, ?_⟩
    simp only [writeTdp, if_pos unsupported]
  · have outside : tdpValue < uwGetTdpMin defs tdpIndex ∨
        tdpValue > uwGetTdpMax defs tdpIndex := by
      by_contra inside
      exact rejected ⟨by omega, by omega, by omega⟩
    refine ⟨-einval, by decide, ?_⟩
    simp only [writeTdp, if_neg unsupported, if_pos outside]

/-- The switch to the profile writes another register. -/
theorem tdpWrite_not_mem_overboost (features : DeviceFeatures)
    (outcome : EcWrite) (machine : Machine FaultyRam) :
    tdpWrite features tdpIndex tdpValue outcome ∉
      faultyEc.trace (uwSetPerformanceProfileV1 profileOverboost)
        machine := by
  intro member
  have same : tdpCurrentAddr tdpIndex = 0x0751 :=
    allowed_of_write_mem_trace
      (uwSetPerformanceProfileV1_asks profileOverboost) member
  have values : (tdpCurrentAddr tdpIndex).toNat = 0x0751 :=
    congrArg BitVec.toNat same
  rw [toNat_tdpCurrentAddr] at values
  omega

/-- A limit that is written is written last. -/
theorem tdpWrite_mem_iff {before : List EcEvent} {features : DeviceFeatures}
    {outcome : AccessOutcome}
    (others : tdpWrite features tdpIndex tdpValue .ok ∉ before) :
    tdpWrite features tdpIndex tdpValue .ok ∈
        before ++ [tdpWrite features tdpIndex tdpValue
          (if outcome.succeeds = true then .ok else .fail)] ↔
      outcome.succeeds = true := by
  rw [List.mem_append, List.mem_singleton]
  constructor
  · rintro (earlier | last)
    · exact absurd earlier others
    · by_contra failed
      rw [if_neg failed] at last
      cases last
  · intro succeeds
    rw [if_pos succeeds]
    exact Or.inr rfl

theorem allOrNothing_of_accepted
    (accepted : AcceptedTdp defs tdpIndex tdpValue)
    (machine : Machine FaultyRam) :
    AllOrNothing defs tdpIndex tdpValue machine ↔
      (outcomeAfter (tdpWritePosition machine.1.uniwillDeviceFeatures)
        machine.2).succeeds = true := by
  by_cases needed :
      machine.1.uniwillDeviceFeatures.uniwillCustomProfileModeNeeded = true
  · have profile := run_uwSetPerformanceProfileV1_overboost machine
    obtain ⟨success, write⟩ :=
      writeTdp_of_accepted accepted
        (machine.1, ⟨overboosted machine.2, machine.2.outcomes.tail.tail⟩)
    have third :
        FaultyRam.next
            ⟨overboosted machine.2, machine.2.outcomes.tail.tail⟩ =
          outcomeAfter 2 machine.2 := by
      simp only [FaultyRam.next, outcomeAfter]
      cases machine.2.outcomes with
      | nil => rfl
      | cons first rest => cases rest <;> rfl
    simp only [AllOrNothing, uwSetTdp, run_bind, run_getStatics,
      trace_bind, trace_getStatics, needed, if_true, profile,
      success, write, third, tdpWritePosition, ne_eq, not_true_eq_false,
      false_implies, true_and, true_implies, List.nil_append]
    exact
      tdpWrite_mem_iff
        (tdpWrite_not_mem_overboost _ _ _)
  · obtain ⟨success, write⟩ := writeTdp_of_accepted accepted machine
    simp only [AllOrNothing, uwSetTdp, run_bind, run_getStatics,
      trace_bind, trace_getStatics, if_neg needed, success,
      write, tdpWritePosition, ne_eq, not_true_eq_false, false_implies,
      true_and, true_implies, List.nil_append]
    exact tdpWrite_mem_iff List.not_mem_nil

theorem allOrNothing_of_not_accepted
    (rejected : ¬ AcceptedTdp defs tdpIndex tdpValue)
    (machine : Machine FaultyRam) :
    AllOrNothing defs tdpIndex tdpValue machine ↔
      (machine.1.uniwillDeviceFeatures.uniwillCustomProfileModeNeeded =
          true →
        overboosted machine.2 = machine.2.ram) := by
  obtain ⟨result, failed, refused⟩ := writeTdp_of_not_accepted rejected
  have profile := run_uwSetPerformanceProfileV1_overboost machine
  simp only [AllOrNothing, uwSetTdp, refused, run_bind, run_getStatics,
    run_ite, run_pure]
  split
  case isTrue needed =>
    simp only [profile, ne_eq, failed, not_false_eq_true, true_implies,
      false_implies, and_true, needed]
  case isFalse notNeeded =>
    simp only [ne_eq, failed, not_false_eq_true, true_implies,
      false_implies, and_true, notNeeded, Bool.false_eq_true]

end AllOrNothing

/-- For every device, every limit and every outcome of the accesses. -/
theorem allOrNothing_iff (defs : TdpPointers) (tdpIndex : U8)
    (tdpValue : Int) (machine : Machine FaultyRam) :
    AllOrNothing defs tdpIndex tdpValue machine ↔
      KeepsPromise defs tdpIndex tdpValue machine := by
  by_cases accepted : AcceptedTdp defs tdpIndex tdpValue
  · rw [allOrNothing_of_accepted accepted]
    simp only [KeepsPromise, accepted, true_implies, not_true_eq_false,
      false_implies, and_true]
  · rw [allOrNothing_of_not_accepted accepted, overboosted_eq_iff]
    simp only [KeepsPromise, accepted, false_implies, not_false_eq_true,
      true_implies, true_and]

/-- A limit that is too high is refused after the profile was changed. -/
theorem uwSetTdp_tooHigh_switches :
    ¬ AllOrNothing (uwIdTdp 0 stellaris16Dmi) 0 1000
      ({ uniwillDeviceFeatures :=
          { uniwillCustomProfileModeNeeded := true } },
        ⟨fun _ => 0, []⟩) := by
  intro promise
  have unchanged := congrFun (promise.1 (by decide)) 0x0751
  revert unchanged
  decide

end TuxedoDrivers.Io
