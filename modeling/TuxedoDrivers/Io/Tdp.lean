import TuxedoDrivers.Uniwill.DeviceFeatures

/-!
# TDP limits and performance profiles

`uw_set_tdp` checks a requested limit against the table of the device,
narrows it to a byte, halving the third limit where the EC doubles it, and
`uw_get_tdp` reads it back.  Which tables and which doubling a device has is
found out independently of each other.  The main result says exactly when a
limit that was set without an error is read back as it should.
-/

namespace TuxedoDrivers.Io

open Interaction Uniwill

/-! ## Performance profiles -/

def profileOverboost : U32 := 3

/-- The `switch` of `uw_set_performance_profile_v1`: the next value of the
register and the new value of `result`. -/
def performanceProfileValue (profile : U32) (nextValue : U8)
    (result : U32) : U8 × U32 :=
  if profile = 0x01 then (nextValue ||| 0xa0, result)
  else if profile = 0x02 then (nextValue ||| 0x00, result)
  else if profile = 0x03 then (nextValue ||| 0x10, result)
  else (nextValue, BitVec.ofInt 32 (-einval))

def uwSetPerformanceProfileV1 (profile : U32) : Driver U32 := do
  let clearBits : U8 := 0xa0 ||| 0x10
  let current ← uniwillReadEcRam 0x0751
  let result : U32 := BitVec.ofInt 32 current.status
  -- The comparison is on an unsigned value, so a failed read passes it.
  if 0 ≤ result then
    let next :=
      performanceProfileValue profile (current.data &&& ~~~clearBits) result
    if next.2 ≠ BitVec.ofInt 32 (-einval) then
      let written ← uniwillWriteEcRam 0x0751 next.1
      return BitVec.ofInt 32 written.status
    else
      return next.2
  else
    return result

/-- Only a profile that exists keeps the status of the read. -/
theorem performanceProfileValue_status
    (profile : U32) (nextValue : U8) (result : U32) :
    (performanceProfileValue profile nextValue result).2 =
      if profile = 1 ∨ profile = 2 ∨ profile = 3 then result
      else BitVec.ofInt 32 (-einval) := by
  unfold performanceProfileValue
  by_cases first : profile = 1
  · rw [if_pos first, if_pos (Or.inl first)]
  · by_cases second : profile = 2
    · rw [if_neg first, if_pos second, if_pos (Or.inr (Or.inl second))]
    · by_cases third : profile = 3
      · rw [if_neg first, if_neg second, if_pos third,
          if_pos (Or.inr (Or.inr third))]
      · rw [if_neg first, if_neg second, if_neg third,
          if_neg (by simp only [first, second, third, or_self,
            not_false_eq_true])]

theorem uwSetPerformanceProfileV1_asks (profile : U32) :
    (uwSetPerformanceProfileV1 profile).Asks
      (EcRequest fun address _ => address = 0x0751) := by
  refine (asks_uniwillReadEcRam 0x0751).bind fun current => ?_
  refine Program.Asks.ite (fun _ => ?_) (fun _ => trivial)
  refine Program.Asks.ite (fun _ => ?_) (fun _ => trivial)
  exact (asks_uniwillWriteEcRam rfl).bind fun _ => trivial

/-! ## Tables -/

/-- The minima and the maxima of a device. -/
structure TdpDefs where
  min : Vector Int 3
  max : Vector Int 3
  deriving DecidableEq, Repr

def tdpPh4tux : TdpDefs :=
  ⟨#v[0x05, 0x05, 0x00], #v[0x26, 0x26, 0x00]⟩

def tdpPh4trx : TdpDefs :=
  ⟨#v[0x05, 0x05, 0x00], #v[0x32, 0x32, 0x00]⟩

def tdpPh4tqx : TdpDefs :=
  ⟨#v[0x05, 0x05, 0x00], #v[0x32, 0x32, 0x00]⟩

def tdpPhxaxxMk1 : TdpDefs :=
  ⟨#v[0x05, 0x05, 0x00], #v[0x32, 0x3c, 0x00]⟩

def tdpPhxaxxMk2 : TdpDefs :=
  ⟨#v[0x05, 0x05, 0x00], #v[0x37, 0x64, 0x00]⟩

def tdpPhxpxx : TdpDefs :=
  ⟨#v[0x05, 0x05, 0x05], #v[0x2d, 0x3c, 0x6e]⟩

def tdpPfxluxg : TdpDefs :=
  ⟨#v[0x05, 0x05, 0x05], #v[0x23, 0x23, 0x28]⟩

def tdpGmxngxx : TdpDefs :=
  ⟨#v[0x05, 0x05, 0x05], #v[0x50, 0x50, 0x5f]⟩

def tdpGmxmgxx : TdpDefs :=
  ⟨#v[0x05, 0x05, 0x05], #v[0x78, 0x78, 0xc8]⟩

def tdpGmxtgxx : TdpDefs :=
  ⟨#v[0x05, 0x05, 0x05], #v[0x78, 0x78, 0xc8]⟩

def tdpGmxzgxx : TdpDefs :=
  ⟨#v[0x05, 0x05, 0x05], #v[0x50, 0x50, 0x5f]⟩

def tdpGmxagxx : TdpDefs :=
  ⟨#v[0x05, 0x05, 0x05], #v[0x78, 0x78, 0xd7]⟩

def tdpGmxrgxx : TdpDefs :=
  ⟨#v[0x05, 0x05, 0x05], #v[0x64, 0x64, 0x6e]⟩

def tdpGmxpxxx : TdpDefs :=
  ⟨#v[0x05, 0x05, 0x05], #v[0x82, 0x82, 0xc8]⟩

def tdpGmxxgxx : TdpDefs :=
  ⟨#v[0x05, 0x05, 0x05], #v[0x50, 0x50, 0x64]⟩

def tdpGmxixxbMb1 : TdpDefs :=
  ⟨#v[0x05, 0x05, 0x05], #v[0xcd, 0xcd, 0x190]⟩

def tdpGmxixxbMb2 : TdpDefs :=
  ⟨#v[0x05, 0x05, 0x05], #v[0xa0, 0xa0, 0xfa]⟩

def tdpGmxixxn : TdpDefs :=
  ⟨#v[0x05, 0x05, 0x05], #v[0xa0, 0xa0, 0xfa]⟩

def tdpGmxixxa : TdpDefs :=
  ⟨#v[0x05, 0x05, 0x05], #v[0x8c, 0x8c, 0xc8]⟩

def tdpGmxhgxa : TdpDefs :=
  ⟨#v[0x05, 0x05, 0x05], #v[0x5a, 0x5a, 0x64]⟩

def tdpX6ar5xx : TdpDefs :=
  ⟨#v[0x05, 0x05, 0x05], #v[0xd2, 0xd2, 0x1a4]⟩

/-- The actual minimum is 10 W, but 25 W was suggested after testing. -/
def tdpX6fr5xx : TdpDefs :=
  ⟨#v[0x19, 0x19, 0x19], #v[0xa2, 0xa2, 0xc3]⟩

def tdpXxxx45xs : TdpDefs :=
  ⟨#v[0x0a, 0x0a, 0x0a], #v[0x64, 0x64, 0x69]⟩

def tdpX6ar55xu : TdpDefs :=
  ⟨#v[0x0a, 0x0a, 0x0a], #v[0x91, 0x9b, 0x122]⟩

def tdpX5ar45xs : TdpDefs :=
  ⟨#v[0x0a, 0x0a, 0x0a], #v[0x5a, 0x5a, 0xe6]⟩

def tdpX6xx45xu : TdpDefs :=
  ⟨#v[0x0a, 0x0a, 0x0a], #v[0x64, 0x64, 0x69]⟩

def tdpXxaf5xxx : TdpDefs :=
  ⟨#v[0x0a, 0x0a, 0x0a], #v[0xd2, 0xd2, 0x1a4]⟩

abbrev uwModelPH4TUX : U8 := 0x13
abbrev uwModelPH4TQF : U8 := 0x14

/-- The conditions of `uw_id_tdp` in their order, each with its tables. -/
def tdpEntries (model : U8) (dmi : Dmi) : List (Bool × TdpDefs) :=
  [ (decide (model = uwModelPH4TUX), tdpPh4tux),
    (decide (model = uwModelPH4TRX), tdpPh4trx),
    (decide (model = uwModelPH4TQF), tdpPh4tqx),
    (dmiMatch dmi .productSku "IBP1XI07MK1", tdpPhxaxxMk1),
    (dmiMatch dmi .productSku "IBP1XI07MK2", tdpPhxaxxMk2),
    (dmiMatch dmi .productSku "IBP1XI08MK1" ||
        dmiMatch dmi .productSku "IBP1XI08MK2" ||
        dmiMatch dmi .productSku "IBP14I08MK2" ||
        dmiMatch dmi .productSku "IBP16I08MK2" ||
        dmiMatch dmi .productSku "OMNIA08IMK2",
      tdpPhxpxx),
    (dmiMatch dmi .productSku "PULSE1502", tdpPfxluxg),
    (dmiMatch dmi .productSku "POLARIS1XA02", tdpGmxngxx),
    (dmiMatch dmi .productSku "POLARIS1XI02", tdpGmxmgxx),
    (dmiMatch dmi .productSku "POLARIS1XI03" ||
        dmiMatch dmi .productSku "STELLARIS1XI03",
      tdpGmxtgxx),
    (dmiMatch dmi .productSku "POLARIS1XA03" ||
        dmiMatch dmi .productSku "STELLARIS1XA03",
      tdpGmxzgxx),
    (dmiMatch dmi .productSku "STELLARIS1XI04", tdpGmxagxx),
    (dmiMatch dmi .productSku "STEPOL1XA04", tdpGmxrgxx),
    (dmiMatch dmi .productSku "STELLARIS1XI05", tdpGmxpxxx),
    (dmiMatch dmi .productSku "POLARIS1XA05", tdpGmxxgxx),
    (dmiMatch dmi .productSku "STELLARIS1XA05", tdpGmxxgxx),
    (dmiMatch dmi .productSku "STELLARIS16I06" &&
        dmiMatch dmi .boardName "GM6IXxB_MB1",
      tdpGmxixxbMb1),
    (dmiMatch dmi .productSku "STELLARIS16I06" &&
        dmiMatch dmi .boardName "GM6IXxB_MB2",
      tdpGmxixxbMb2),
    (dmiMatch dmi .productSku "STELLARIS17I06", tdpGmxixxn),
    (dmiMatch dmi .productSku "STELLSL15I06", tdpGmxixxa),
    (dmiMatch dmi .productSku "STELLSL15A06", tdpGmxhgxa),
    (dmiMatch dmi .productSku "STELLARIS16I07", tdpX6ar5xx),
    (dmiMatch dmi .productSku "STELLARIS16A07", tdpX6fr5xx),
    (dmiMatch dmi .boardName "X5KK45xS_X5SP45xS", tdpXxxx45xs),
    (dmiMatch dmi .boardName "X6AR55xU", tdpX6ar55xu),
    (dmiMatch dmi .boardName "X5AR45xS", tdpX5ar45xs),
    (dmiMatch dmi .boardName "X6KK45xU_X6SP45xU", tdpX6xx45xu),
    (dmiMatch dmi .boardName "XxAF5xxx" ||
        dmiMatch dmi .boardName "XxAF5xxx_mLED",
      tdpXxaf5xxx) ]

/-- `tdp_min_defs` and `tdp_max_defs`, each `NULL` or a table. -/
structure TdpPointers where
  min : Option (Vector Int 3)
  max : Option (Vector Int 3)
  deriving DecidableEq, Repr

/-- The tables of the first condition that holds, if any. -/
def tdpDefsOf (model : U8) (dmi : Dmi) : Option TdpDefs :=
  ((tdpEntries model dmi).find? fun entry => entry.1).map Prod.snd

/-- What `uw_id_tdp` assigns. -/
def uwIdTdp (model : U8) (dmi : Dmi) : TdpPointers :=
  ⟨(tdpDefsOf model dmi).map TdpDefs.min,
    (tdpDefsOf model dmi).map TdpDefs.max⟩

/-! ## Limits -/

/-- `uw_get_tdp_min` and `uw_get_tdp_max` for one of the two tables. -/
def uwGetTdpBound (defs : Option (Vector Int 3)) (tdpIndex : U8) : Int :=
  if known : tdpIndex.toNat < 3 then
    match defs with
    | none => -enodev
    | some bounds =>
        if bounds.get ⟨tdpIndex.toNat, known⟩ ≤ 0 then -enodev
        else bounds.get ⟨tdpIndex.toNat, known⟩
  else -einval

def uwGetTdpMin (defs : TdpPointers) (tdpIndex : U8) : Int :=
  uwGetTdpBound defs.min tdpIndex

def uwGetTdpMax (defs : TdpPointers) (tdpIndex : U8) : Int :=
  uwGetTdpBound defs.max tdpIndex

def tdpCurrentAddr (tdpIndex : U8) : U16 :=
  0x0783 + tdpIndex.setWidth 16

theorem toNat_tdpCurrentAddr (tdpIndex : U8) :
    (tdpCurrentAddr tdpIndex).toNat = 0x0783 + tdpIndex.toNat := by
  have base : (0x0783 : U16).toNat = 0x0783 := rfl
  have small := tdpIndex.isLt
  rw [tdpCurrentAddr, BitVec.toNat_add, BitVec.toNat_setWidth, base]
  omega

/-- Whether the EC doubles the limit with this index. -/
def doubledTdp (features : DeviceFeatures) (tdpIndex : U8) : Bool :=
  decide (tdpIndex = 2) && features.uniwillHasDoublePl4

def uwGetTdp (defs : TdpPointers) (tdpIndex : U8) : Driver Int := do
  if uwGetTdpMin defs tdpIndex < 0 then
    return uwGetTdpMin defs tdpIndex
  else
    let tdpData ← uniwillReadEcRam (tdpCurrentAddr tdpIndex)
    if tdpData.status < 0 then
      return tdpData.status
    else
      let statics ← getStatics
      if doubledTdp statics.uniwillDeviceFeatures tdpIndex = true then
        return (tdpData.data.toNat : Int) * 2
      else
        return (tdpData.data.toNat : Int)

/-- The value that `uw_set_tdp` narrows to a byte. -/
def tdpToWrite (features : DeviceFeatures) (tdpIndex : U8)
    (tdpValue : Int) : Int :=
  if doubledTdp features tdpIndex = true then tdpValue.tdiv 2
  else tdpValue

/-- `uw_set_tdp` after the choice of the profile. -/
def writeTdp (defs : TdpPointers) (tdpIndex : U8) (tdpValue : Int) :
    Driver Int := do
  if uwGetTdpMin defs tdpIndex < 0 then
    return uwGetTdpMin defs tdpIndex
  else if tdpValue < uwGetTdpMin defs tdpIndex ∨
      tdpValue > uwGetTdpMax defs tdpIndex then
    return -einval
  else
    let statics ← getStatics
    let _ ← uniwillWriteEcRam (tdpCurrentAddr tdpIndex)
      (BitVec.ofInt 8
        (tdpToWrite statics.uniwillDeviceFeatures tdpIndex tdpValue))
    return 0

def uwSetTdp (defs : TdpPointers) (tdpIndex : U8) (tdpValue : Int) :
    Driver Int := do
  let statics ← getStatics
  if statics.uniwillDeviceFeatures.uniwillCustomProfileModeNeeded = true then
    let _ ← uwSetPerformanceProfileV1 profileOverboost
    writeTdp defs tdpIndex tdpValue
  else
    writeTdp defs tdpIndex tdpValue

/-! ## Setting and reading back -/

/-- The first two limits of every device fit a byte, and the third fits one
when it is halved. -/
def TdpDefs.Fits (defs : TdpDefs) : Prop :=
  (∀ i : Fin 3, i.val < 2 → defs.max.get i ≤ 255) ∧
    ∀ i : Fin 3, defs.max.get i < 512

instance (defs : TdpDefs) : Decidable defs.Fits :=
  inferInstanceAs (Decidable (_ ∧ _))

/-- All tables, whatever the device. -/
def tdpTables : List TdpDefs :=
  (tdpEntries 0 fun _ => none).map Prod.snd

theorem mem_tdpTables {model : U8} {dmi : Dmi} {defs : TdpDefs}
    (identified : tdpDefsOf model dmi = some defs) : defs ∈ tdpTables := by
  have same : (tdpEntries model dmi).map Prod.snd = tdpTables :=
    rfl
  obtain ⟨entry, found, rfl⟩ := Option.map_eq_some_iff.mp identified
  rw [← same]
  exact List.mem_map_of_mem (List.mem_of_find?_eq_some found)

theorem fits_of_tdpDefsOf {model : U8} {dmi : Dmi} {defs : TdpDefs}
    (identified : tdpDefsOf model dmi = some defs) : defs.Fits := by
  have allFit : ∀ tables ∈ tdpTables, tables.Fits := by
    decide
  exact allFit defs (mem_tdpTables identified)

/-- A bound that is not an error code is positive and stands in the table. -/
theorem uwGetTdpBound_nonneg
    {defs : Option (Vector Int 3)} {tdpIndex : U8}
    (supported : 0 ≤ uwGetTdpBound defs tdpIndex) :
    ∃ (bounds : Vector Int 3) (known : tdpIndex.toNat < 3),
      defs = some bounds ∧
        uwGetTdpBound defs tdpIndex = bounds.get ⟨tdpIndex.toNat, known⟩ ∧
        0 < bounds.get ⟨tdpIndex.toNat, known⟩ := by
  unfold uwGetTdpBound at supported ⊢
  by_cases known : tdpIndex.toNat < 3
  · rw [dif_pos known] at supported
    simp only [dif_pos known]
    cases defs with
    | none =>
        change (0 : Int) ≤ -enodev at supported
        exact absurd supported (by decide)
    | some bounds =>
        by_cases absent : bounds.get ⟨tdpIndex.toNat, known⟩ ≤ 0
        · simp only [if_pos absent] at supported
          exact absurd supported (by decide)
        · exact
            ⟨bounds, known, rfl, if_neg absent, Int.not_le.mp absent⟩
  · rw [dif_neg known] at supported
    exact absurd supported (by decide)

/-- In the first two limits any two tables overlap. -/
def TdpDefs.Overlaps (defs : TdpDefs) : Prop :=
  ∀ i : Fin 3, i.val < 2 →
    (0 < defs.min.get i ∧ defs.min.get i ≤ 25) ∧
      35 ≤ defs.max.get i ∧ defs.max.get i ≤ 255

instance (defs : TdpDefs) : Decidable defs.Overlaps :=
  inferInstanceAs (Decidable (∀ i : Fin 3, i.val < 2 → _))

/-- The bounds of the first two limits where there are tables. -/
theorem bounds_of_tables {model : U8} {dmi : Dmi} {tdpIndex : U8}
    (first : tdpIndex.toNat < 2)
    (tables : (tdpDefsOf model dmi).isSome = true) :
    (0 < uwGetTdpMin (uwIdTdp model dmi) tdpIndex ∧
        uwGetTdpMin (uwIdTdp model dmi) tdpIndex ≤ 25) ∧
      35 ≤ uwGetTdpMax (uwIdTdp model dmi) tdpIndex ∧
        uwGetTdpMax (uwIdTdp model dmi) tdpIndex ≤ 255 := by
  have allOverlap : ∀ tables ∈ tdpTables, tables.Overlaps := by
    decide
  have known : tdpIndex.toNat < 3 := by omega
  obtain ⟨defs, identified⟩ := Option.isSome_iff_exists.mp tables
  obtain ⟨⟨minPositive, minSmall⟩, maxLarge, maxByte⟩ :=
    allOverlap defs (mem_tdpTables identified) ⟨tdpIndex.toNat, known⟩ first
  have maxPositive : ¬ defs.max.get ⟨tdpIndex.toNat, known⟩ ≤ 0 := by
    omega
  have minimum : uwGetTdpMin (uwIdTdp model dmi) tdpIndex =
      defs.min.get ⟨tdpIndex.toNat, known⟩ := by
    simp only [uwGetTdpMin, uwIdTdp, identified, Option.map_some,
      uwGetTdpBound, dif_pos known, if_neg (Int.not_le.mpr minPositive)]
  have maximum : uwGetTdpMax (uwIdTdp model dmi) tdpIndex =
      defs.max.get ⟨tdpIndex.toNat, known⟩ := by
    simp only [uwGetTdpMax, uwIdTdp, identified, Option.map_some,
      uwGetTdpBound, dif_pos known, if_neg maxPositive]
  rw [minimum, maximum]
  exact ⟨⟨minPositive, minSmall⟩, maxLarge, maxByte⟩

/-- Where the DMI strings select tables, there are some for every model. -/
theorem tables_of_dmi {dmi : Dmi}
    (byDmi : (tdpDefsOf 0 dmi).isSome = true) (model : U8) :
    (tdpDefsOf model dmi).isSome = true := by
  have entries (other : U8) : tdpEntries other dmi =
      [ (decide (other = uwModelPH4TUX), tdpPh4tux),
        (decide (other = uwModelPH4TRX), tdpPh4trx),
        (decide (other = uwModelPH4TQF), tdpPh4tqx) ] ++
        (tdpEntries 0 dmi).drop 3 :=
    rfl
  rw [tdpDefsOf, Option.isSome_map, List.find?_isSome] at byDmi ⊢
  obtain ⟨entry, member, holds⟩ := byDmi
  rw [entries, List.mem_append] at member
  rcases member with byModel | byStrings
  · have unmatched : ∀ other ∈
        [ (decide ((0 : U8) = uwModelPH4TUX), tdpPh4tux),
          (decide ((0 : U8) = uwModelPH4TRX), tdpPh4trx),
          (decide ((0 : U8) = uwModelPH4TQF), tdpPh4tqx) ],
        other.1 = false := by
      decide
    rw [unmatched entry byModel] at holds
    cases holds
  · refine ⟨entry, ?_, holds⟩
    rw [entries]
    exact List.mem_append_right _ byStrings

/-- A limit that `uw_set_tdp` takes. -/
def AcceptedTdp (defs : TdpPointers) (tdpIndex : U8)
    (tdpValue : Int) : Prop :=
  0 ≤ uwGetTdpMin defs tdpIndex ∧ uwGetTdpMin defs tdpIndex ≤ tdpValue ∧
    tdpValue ≤ uwGetTdpMax defs tdpIndex

theorem run_writeTdp
    (defs : TdpPointers) (tdpIndex : U8) (tdpValue : Int)
    (machine : Machine Ram)
    (succeeds :
      (reliableEc.run (writeTdp defs tdpIndex tdpValue) machine).1 = 0) :
    AcceptedTdp defs tdpIndex tdpValue ∧
      (reliableEc.run (writeTdp defs tdpIndex tdpValue) machine).2 =
        (machine.1,
          Function.update machine.2 (tdpCurrentAddr tdpIndex)
            (BitVec.ofInt 8
              (tdpToWrite machine.1.uniwillDeviceFeatures tdpIndex
                tdpValue))) := by
  unfold writeTdp at succeeds ⊢
  by_cases unsupported : uwGetTdpMin defs tdpIndex < 0
  · rw [if_pos unsupported, run_pure] at succeeds
    change uwGetTdpMin defs tdpIndex = 0 at succeeds
    omega
  · by_cases outside : tdpValue < uwGetTdpMin defs tdpIndex ∨
        tdpValue > uwGetTdpMax defs tdpIndex
    · rw [if_neg unsupported, if_pos outside, run_pure] at succeeds
      change (-einval : Int) = 0 at succeeds
      exact absurd succeeds (by decide)
    · rw [if_neg unsupported, if_neg outside]
      refine ⟨⟨by omega, by omega, by omega⟩, ?_⟩
      simp

theorem run_uwSetTdp
    (defs : TdpPointers) (tdpIndex : U8) (tdpValue : Int)
    (machine : Machine Ram)
    (succeeds :
      (reliableEc.run (uwSetTdp defs tdpIndex tdpValue) machine).1 = 0) :
    AcceptedTdp defs tdpIndex tdpValue ∧
      (reliableEc.run (uwSetTdp defs tdpIndex tdpValue) machine).2.1 =
        machine.1 ∧
      (reliableEc.run (uwSetTdp defs tdpIndex tdpValue) machine).2.2
          (tdpCurrentAddr tdpIndex) =
        BitVec.ofInt 8
          (tdpToWrite machine.1.uniwillDeviceFeatures tdpIndex
            tdpValue) := by
  have statics :=
    statics_of_ecRequests reliableEc
      (uwSetPerformanceProfileV1_asks profileOverboost) machine
  simp only [uwSetTdp, run_bind, run_getStatics, run_ite] at succeeds ⊢
  split at succeeds
  · obtain ⟨accepted, after⟩ := run_writeTdp _ _ _ _ succeeds
    rw [if_pos ‹_›, after, statics]
    exact ⟨accepted, rfl, Function.update_self _ _ _⟩
  · obtain ⟨accepted, after⟩ := run_writeTdp _ _ _ _ succeeds
    rw [if_neg ‹_›, after]
    exact ⟨accepted, rfl, Function.update_self _ _ _⟩

theorem run_uwGetTdp
    (defs : TdpPointers) (tdpIndex : U8) (machine : Machine Ram)
    (supported : 0 ≤ uwGetTdpMin defs tdpIndex) :
    (reliableEc.run (uwGetTdp defs tdpIndex) machine).1 =
      if doubledTdp machine.1.uniwillDeviceFeatures tdpIndex = true then
        ((machine.2 (tdpCurrentAddr tdpIndex)).toNat : Int) * 2
      else ((machine.2 (tdpCurrentAddr tdpIndex)).toNat : Int) := by
  simp only [uwGetTdp, Int.not_lt.mpr supported, if_false, run_bind,
    run_uniwillReadEcRam, reliableEc_read, EcRead.status_ok,
    EcRead.data_ok, Int.lt_irrefl, run_getStatics, run_ite, run_pure]
  split <;> rfl

/-- What reading back a limit should give, and that the byte written holds
it. -/
structure TdpReadBack (defs : TdpPointers) (features : DeviceFeatures)
    (tdpIndex : U8) (tdpValue read : Int) : Prop where
  atLeastMin : uwGetTdpMin defs tdpIndex ≤ read
  atMostMax : read ≤ uwGetTdpMax defs tdpIndex
  atMostValue : read ≤ tdpValue
  closeToValue : tdpValue - read ≤ 1
  rounded :
    read ≠ tdpValue →
      doubledTdp features tdpIndex = true ∧ tdpValue % 2 = 1
  fitsByte :
    0 ≤ tdpToWrite features tdpIndex tdpValue ∧
      tdpToWrite features tdpIndex tdpValue ≤ 255

/-- The third limit can be lost in two ways: without doubling it can exceed
a byte, and with doubling an odd minimum is rounded below itself. -/
def LostTdp (defs : TdpPointers) (features : DeviceFeatures)
    (tdpIndex : U8) (tdpValue : Int) : Prop :=
  tdpIndex = 2 ∧
    ((features.uniwillHasDoublePl4 = false ∧ 255 < tdpValue) ∨
      (features.uniwillHasDoublePl4 = true ∧ tdpValue % 2 = 1 ∧
        tdpValue = uwGetTdpMin defs tdpIndex))

/-- An accepted limit is positive and within the table of the device. -/
theorem accepted_bounds
    {model : U8} {dmi : Dmi} {tdpIndex : U8} {tdpValue : Int}
    (accepted : AcceptedTdp (uwIdTdp model dmi) tdpIndex tdpValue) :
    0 < tdpValue ∧ tdpValue < 512 ∧
      (tdpIndex ≠ 2 → tdpValue ≤ 255) := by
  obtain ⟨supported, atLeast, atMost⟩ := accepted
  obtain ⟨minima, known, -, minShape, minPositive⟩ :=
    uwGetTdpBound_nonneg supported
  have minValue : 0 < uwGetTdpMin (uwIdTdp model dmi) tdpIndex :=
    minPositive.trans_eq minShape.symm
  have maxSupported : 0 ≤ uwGetTdpMax (uwIdTdp model dmi) tdpIndex := by
    omega
  obtain ⟨maxima, _, identified, maxShape, -⟩ :=
    uwGetTdpBound_nonneg maxSupported
  obtain ⟨defs, identifiedDefs, rfl⟩ :=
    Option.map_eq_some_iff.mp identified
  obtain ⟨firstTwo, all⟩ := fits_of_tdpDefsOf identifiedDefs
  have belowAll := all ⟨tdpIndex.toNat, known⟩
  change uwGetTdpMax (uwIdTdp model dmi) tdpIndex = _ at maxShape
  refine ⟨by omega, by omega, fun notThird => ?_⟩
  have firstOrSecond : tdpIndex.toNat < 2 := by
    have different : tdpIndex.toNat ≠ 2 := fun same =>
      notThird (BitVec.eq_of_toNat_eq same)
    omega
  have belowFirst := firstTwo ⟨tdpIndex.toNat, known⟩ firstOrSecond
  omega

theorem byteValue_eq_emod (value : Int) :
    ((BitVec.ofInt 8 value).toNat : Int) = value % 256 := by
  have nonneg : 0 ≤ value % 256 := Int.emod_nonneg value (by decide)
  rw [BitVec.toNat_ofInt]
  exact Int.toNat_of_nonneg nonneg

theorem doubledTdp_iff (features : DeviceFeatures) (tdpIndex : U8) :
    doubledTdp features tdpIndex = true ↔
      tdpIndex = 2 ∧ features.uniwillHasDoublePl4 = true := by
  simp [doubledTdp]

/-- Only the third limit is halved. -/
theorem tdpToWrite_of_ne {tdpIndex : U8} (notThird : tdpIndex ≠ 2)
    (features : DeviceFeatures) (tdpValue : Int) :
    tdpToWrite features tdpIndex tdpValue = tdpValue := by
  have notDoubled : ¬ doubledTdp features tdpIndex = true := by
    rw [doubledTdp_iff]
    exact fun both => notThird both.1
  rw [tdpToWrite, if_neg notDoubled]

section ReadBack

variable {defs : TdpPointers} {features : DeviceFeatures}
  {tdpIndex : U8} {tdpValue : Int}

/-- With doubling the byte always fits, and an odd limit is read back one
below itself, which only the minimum is not allowed to be. -/
private theorem doubled_readBack_iff
    (doubled : doubledTdp features tdpIndex = true)
    (accepted : AcceptedTdp defs tdpIndex tdpValue)
    (positive : 0 < tdpValue) (below : tdpValue < 512) :
    TdpReadBack defs features tdpIndex tdpValue
        (tdpToWrite features tdpIndex tdpValue % 256 * 2) ↔
      ¬ LostTdp defs features tdpIndex tdpValue := by
  obtain ⟨-, atLeast, atMost⟩ := accepted
  obtain ⟨third, double⟩ := (doubledTdp_iff features tdpIndex).mp doubled
  have half : tdpToWrite features tdpIndex tdpValue = tdpValue / 2 := by
    rw [tdpToWrite, if_pos doubled]
    exact Int.tdiv_eq_ediv_of_nonneg (by omega)
  rw [half]
  constructor
  · rintro ⟨minOk, -, -, -, -, -⟩ ⟨-, ⟨single, -⟩ | ⟨-, odd, same⟩⟩
    · rw [double] at single
      cases single
    · omega
  · intro kept
    have notMinimum :
        tdpValue % 2 = 1 → tdpValue ≠ uwGetTdpMin defs tdpIndex :=
      fun odd same => kept ⟨third, Or.inr ⟨double, odd, same⟩⟩
    exact
      { atLeastMin := by omega
        atMostMax := by omega
        atMostValue := by omega
        closeToValue := by omega
        rounded := fun differs => ⟨doubled, by omega⟩
        fitsByte := by rw [half]; omega }

/-- Without doubling a limit that fits a byte is read back unchanged, and
only the third limit may not fit. -/
private theorem single_readBack_iff
    (single : doubledTdp features tdpIndex = false)
    (accepted : AcceptedTdp defs tdpIndex tdpValue)
    (positive : 0 < tdpValue) (oneByte : tdpIndex ≠ 2 → tdpValue ≤ 255) :
    TdpReadBack defs features tdpIndex tdpValue
        (tdpToWrite features tdpIndex tdpValue % 256) ↔
      ¬ LostTdp defs features tdpIndex tdpValue := by
  obtain ⟨-, atLeast, atMost⟩ := accepted
  have notDoubled := mt (doubledTdp_iff features tdpIndex).mpr
  rw [single] at notDoubled
  have whole : tdpToWrite features tdpIndex tdpValue = tdpValue := by
    rw [tdpToWrite, if_neg (by simp [single])]
  rw [whole]
  constructor
  · rintro ⟨-, -, -, -, -, fits⟩ ⟨third, ⟨-, large⟩ | ⟨double, -, -⟩⟩
    · rw [whole] at fits
      omega
    · exact notDoubled Bool.false_ne_true ⟨third, double⟩
  · intro kept
    have fits : tdpValue ≤ 255 := by
      by_cases third : tdpIndex = 2
      · by_contra large
        have noDouble : features.uniwillHasDoublePl4 = false := by
          rw [← Bool.not_eq_true]
          exact fun double => notDoubled Bool.false_ne_true ⟨third, double⟩
        exact kept ⟨third, Or.inl ⟨noDouble, by omega⟩⟩
      · exact oneByte third
    exact
      { atLeastMin := by omega
        atMostMax := by omega
        atMostValue := by omega
        closeToValue := by omega
        rounded := fun differs => absurd (by omega) differs
        fitsByte := by rw [whole]; omega }

end ReadBack

/-- A limit set without an error is read back as it should exactly when it
is not lost. -/
theorem uwSetTdp_readBack_iff
    (model : U8) (dmi : Dmi) (tdpIndex : U8) (tdpValue : Int)
    (machine : Machine Ram)
    (succeeds :
      (reliableEc.run (uwSetTdp (uwIdTdp model dmi) tdpIndex tdpValue)
        machine).1 = 0) :
    TdpReadBack (uwIdTdp model dmi) machine.1.uniwillDeviceFeatures
        tdpIndex tdpValue
        (reliableEc.run (uwGetTdp (uwIdTdp model dmi) tdpIndex)
          (reliableEc.run
            (uwSetTdp (uwIdTdp model dmi) tdpIndex tdpValue)
            machine).2).1 ↔
      ¬ LostTdp (uwIdTdp model dmi) machine.1.uniwillDeviceFeatures
        tdpIndex tdpValue := by
  obtain ⟨accepted, statics, written⟩ := run_uwSetTdp _ _ _ _ succeeds
  obtain ⟨positive, below, oneByte⟩ := accepted_bounds accepted
  rw [run_uwGetTdp _ _ _ accepted.1, statics, written, byteValue_eq_emod]
  cases doubled : doubledTdp machine.1.uniwillDeviceFeatures tdpIndex with
  | true =>
      rw [if_pos rfl]
      exact doubled_readBack_iff doubled accepted positive below
  | false =>
      rw [if_neg Bool.false_ne_true]
      exact single_readBack_iff doubled accepted positive oneByte

/-- A board whose third limit goes up to 400. -/
def stellaris16Dmi : Dmi
  | .productSku => some "STELLARIS16I06"
  | .boardName => some "GM6IXxB_MB1"
  | _ => none

def plainMachine : Machine Ram := ({}, fun _ => 0)

theorem uwSetTdp_readBack_iff_240 :
    TdpReadBack (uwIdTdp 0 stellaris16Dmi) {} 2 240
      (reliableEc.run (uwGetTdp (uwIdTdp 0 stellaris16Dmi) 2)
        (reliableEc.run (uwSetTdp (uwIdTdp 0 stellaris16Dmi) 2 240)
          plainMachine).2).1 := by
  refine
    (uwSetTdp_readBack_iff 0 stellaris16Dmi 2 240 plainMachine
      (by decide)).mpr ?_
  rintro ⟨-, ⟨-, large⟩ | ⟨double, -⟩⟩
  · exact absurd large (by decide)
  · cases double

/-- Without doubling, 400 is accepted there and read back as 144. -/
theorem uwSetTdp_stellaris16_wraps :
    (reliableEc.run (uwSetTdp (uwIdTdp 0 stellaris16Dmi) 2 400)
        plainMachine).1 = 0 ∧
      (reliableEc.run (uwGetTdp (uwIdTdp 0 stellaris16Dmi) 2)
        (reliableEc.run (uwSetTdp (uwIdTdp 0 stellaris16Dmi) 2 400)
          plainMachine).2).1 = 144 ∧
      ¬ TdpReadBack (uwIdTdp 0 stellaris16Dmi) {} 2 400 144 := by
  refine ⟨by decide, by decide, fun readBack => ?_⟩
  exact absurd readBack.closeToValue (by decide)

end TuxedoDrivers.Io
