import TuxedoDrivers.Interaction.Runs
import TuxedoDrivers.Interaction.Writes
import TuxedoDrivers.Uniwill.FanRuns

/-!
# The zones of the custom fan tables

`uw_init_fan` fills two tables of 16 zones, each with an end temperature, a
start temperature and a speed, and a fan request changes the speed of the
first zone.  The zones of a table are to be ordered and not to overlap.

The CPU table always is well formed while the tables are on.  The first zone
of the GPU table ends above the start of the second, so the main result says
that a run keeps both tables well formed exactly if they are at its start and
it never sets them up.
-/

namespace TuxedoDrivers.Uniwill

open Interaction

/-! ## Tables -/

def customFanTableZones : Nat := 16

/-- The addresses of the first zone. -/
structure CustomFanTable where
  endTemp : U16
  startTemp : U16
  fanSpeed : U16
  deriving DecidableEq, Repr

def cpuCustomFanTable : CustomFanTable := ⟨0x0f00, 0x0f10, 0x0f20⟩

def gpuCustomFanTable : CustomFanTable := ⟨0x0f30, 0x0f40, 0x0f50⟩

/-- The content of a row of a table for a zone. -/
def zoneCell (ram : Ram) (row : U16) (i : Nat) : U8 :=
  ram (row + BitVec.ofNat 16 i)

/-- The zones are ordered and do not overlap, and the speeds do not decrease
and are the highest above the first zone. -/
structure CustomFanTable.WellFormed (table : CustomFanTable) (ram : Ram) :
    Prop where
  nonempty : ∀ i < customFanTableZones,
    zoneCell ram table.startTemp i < zoneCell ram table.endTemp i
  ordered : ∀ i < customFanTableZones - 1,
    zoneCell ram table.endTemp i ≤ zoneCell ram table.startTemp (i + 1)
  rising : ∀ i < customFanTableZones - 1,
    zoneCell ram table.fanSpeed i ≤ zoneCell ram table.fanSpeed (i + 1)
  fastest : ∀ i < customFanTableZones, 0 < i →
    zoneCell ram table.fanSpeed i = 0xc8

/-- The bits that give each fan a table of its own and that switch the tables
on. -/
def CustomTablesOn (ram : Ram) : Prop :=
  ram 0x07c5 &&& 0x80 ≠ 0 ∧ ram 0x07c6 &&& 0x04 ≠ 0

/-- The table is well formed while the tables are on. -/
def CustomFanTable.Valid (table : CustomFanTable) (machine : Machine Ram) :
    Prop :=
  CustomTablesOn machine.2 → table.WellFormed machine.2

def CustomTablesValid (machine : Machine Ram) : Prop :=
  CustomTablesOn machine.2 →
    cpuCustomFanTable.WellFormed machine.2 ∧
      gpuCustomFanTable.WellFormed machine.2

theorem customTablesValid_iff (machine : Machine Ram) :
    CustomTablesValid machine ↔
      cpuCustomFanTable.Valid machine ∧ gpuCustomFanTable.Valid machine :=
  forall_and

/-! ## Steps -/

inductive FanTableStep where
  | setFan (fanIndex : U32) (fanSpeed : U8)
  | setFanAuto
  deriving DecidableEq, Repr

def applyFanTable : FanTableStep → Machine Ram → Machine Ram
  | .setFan fanIndex fanSpeed, machine =>
      (reliableEc.run (uwSetFan fanIndex fanSpeed) machine).2
  | .setFanAuto, machine => (reliableEc.run uwSetFanAuto machine).2

/-- The step sets the tables up: a fan request that finds full fan mode off
and the fans not initialised. -/
def SetsTablesUp : FanTableStep → Machine Ram → Prop
  | .setFan _ _, machine =>
      machine.2 0x0751 &&& 0x40 = 0 ∧
        machine.1.fan.fansInitialized = false
  | .setFanAuto, _ => False

/-! ## Writes of the set-up -/

section Writes

def zoneWrites (i : Nat) : List (U16 × U8) :=
  [ (0x0f00 + BitVec.ofNat 16 i, BitVec.ofNat 8 (115 + i + 1)),
    (0x0f10 + BitVec.ofNat 16 i, BitVec.ofNat 8 (115 + i)),
    (0x0f20 + BitVec.ofNat 16 i, 0xc8),
    (0x0f30 + BitVec.ofNat 16 i, BitVec.ofNat 8 (115 + i + 1)),
    (0x0f40 + BitVec.ofNat 16 i, BitVec.ofNat 8 (115 + i)),
    (0x0f50 + BitVec.ofNat 16 i, 0xc8) ]

def firstZoneWrites : List (U16 × U8) :=
  [ (0x0f00, 115), (0x0f10, 0), (0x0f20, 0x01), (0x0f30, 120), (0x0f40, 0),
    (0x0f50, 0x01) ]

theorem run_uwInitFanZone (i : Nat) (machine : Machine Ram) :
    (reliableEc.run (uwInitFanZone i) machine).2 =
      (machine.1, applyWrites (zoneWrites i) machine.2) := by
  simp [uwInitFanZone, applyWrites, zoneWrites]

theorem run_uwInitFanZones (zones : List Nat) (machine : Machine Ram) :
    (reliableEc.run (zones.forM uwInitFanZone) machine).2 =
      (machine.1, applyWrites (zones.flatMap zoneWrites) machine.2) := by
  induction zones generalizing machine with
  | nil =>
      rfl
  | cons i rest inductionHypothesis =>
      change
        (reliableEc.run
          (uwInitFanZone i >>= fun _ => rest.forM uwInitFanZone)
          machine).2 = _
      rw [run_bind, inductionHypothesis, run_uwInitFanZone,
        List.flatMap_cons, applyWrites_append]

/-- All writes to the two tables. -/
def fanTableWrites : List (U16 × U8) :=
  firstZoneWrites ++ (List.range' 1 15).flatMap zoneWrites

theorem run_uwInitFanTables (machine : Machine Ram) :
    (reliableEc.run uwInitFanTables machine).2 =
      (machine.1, applyWrites fanTableWrites machine.2) := by
  rw [fanTableWrites, applyWrites_append]
  simp only [uwInitFanTables, run_bind,
    run_uniwillWriteEcRamWithRetry_reliable, run_uwInitFanZones]
  rfl

/-- What the set-up leaves in a cell of the tables. -/
def setupCell (row : U16) (i : Nat) : Option U8 :=
  lastWrite (row + BitVec.ofNat 16 i) fanTableWrites

/-- The set-up of the tables leaves their switch alone. -/
private theorem switch_notMem_fanTableWrites :
    0x07c6 ∉ fanTableWrites.map Prod.fst := by
  decide +kernel

theorem zoneCell_uwInitFanSetup (machine : Machine Ram) {row : U16}
    {i : Nat} {cell : U8} (written : setupCell row i = some cell) :
    zoneCell (reliableEc.run uwInitFanSetup machine).2.2 row i = cell := by
  have notSwitch : row + BitVec.ofNat 16 i ≠ 0x07c6 := by
    intro same
    apply switch_notMem_fanTableWrites
    rw [← same]
    exact List.mem_map_of_mem (mem_of_lastWrite written)
  simp only [uwInitFanSetup, run_bind, run_setFullFanMode_false,
    run_uwEnableCustomFanTable, run_uwInitFanTables, zoneCell]
  rw [Function.update_of_ne notSwitch, applyWrites_apply]
  exact Option.getD_eq_iff.mpr (Or.inl written)

end Writes

/-! ## The tables after the set-up -/

def zoneEnd (i : Nat) : U8 :=
  BitVec.ofNat 8 (if i = 0 then 115 else 115 + i + 1)

def zoneStart (i : Nat) : U8 :=
  BitVec.ofNat 8 (if i = 0 then 0 else 115 + i)

def zoneSpeed (i : Nat) : U8 :=
  if i = 0 then 0x01 else 0xc8

section Setup

variable (machine : Machine Ram)

/-- One zone from 0 to 115 degrees, then zones of one degree from 116 on. -/
theorem cpuTable_uwInitFanSetup {i : Nat} (zone : i < customFanTableZones) :
    let ram := (reliableEc.run uwInitFanSetup machine).2.2
    zoneCell ram 0x0f00 i = zoneEnd i ∧ zoneCell ram 0x0f10 i = zoneStart i ∧
      zoneCell ram 0x0f20 i = zoneSpeed i := by
  have cells : ∀ i < customFanTableZones,
      setupCell 0x0f00 i = some (zoneEnd i) ∧
        setupCell 0x0f10 i = some (zoneStart i) ∧
        setupCell 0x0f20 i = some (zoneSpeed i) := by
    decide +kernel
  obtain ⟨endTemp, startTemp, fanSpeed⟩ := cells i zone
  exact
    ⟨zoneCell_uwInitFanSetup machine endTemp,
      zoneCell_uwInitFanSetup machine startTemp,
      zoneCell_uwInitFanSetup machine fanSpeed⟩

theorem cpuTable_uwInitFanSetup_wellFormed :
    cpuCustomFanTable.WellFormed
      (reliableEc.run uwInitFanSetup machine).2.2 where
  nonempty := by
    have nonempty : ∀ i < customFanTableZones, zoneStart i < zoneEnd i := by
      decide
    intro i zone
    obtain ⟨endTemp, startTemp, -⟩ := cpuTable_uwInitFanSetup machine zone
    rw [cpuCustomFanTable, endTemp, startTemp]
    exact nonempty i zone
  ordered := by
    have ordered : ∀ i < customFanTableZones - 1,
        zoneEnd i ≤ zoneStart (i + 1) := by
      decide
    intro i zone
    obtain ⟨endTemp, -, -⟩ :=
      cpuTable_uwInitFanSetup machine (Nat.lt_of_lt_pred zone)
    obtain ⟨-, startTemp, -⟩ :=
      cpuTable_uwInitFanSetup machine (Nat.add_lt_of_lt_sub zone)
    rw [cpuCustomFanTable, endTemp, startTemp]
    exact ordered i zone
  rising := by
    have rising : ∀ i < customFanTableZones - 1,
        zoneSpeed i ≤ zoneSpeed (i + 1) := by
      decide
    intro i zone
    obtain ⟨-, -, fanSpeed⟩ :=
      cpuTable_uwInitFanSetup machine (Nat.lt_of_lt_pred zone)
    obtain ⟨-, -, nextSpeed⟩ :=
      cpuTable_uwInitFanSetup machine (Nat.add_lt_of_lt_sub zone)
    rw [cpuCustomFanTable, fanSpeed, nextSpeed]
    exact rising i zone
  fastest := by
    intro i zone above
    obtain ⟨-, -, fanSpeed⟩ := cpuTable_uwInitFanSetup machine zone
    rw [cpuCustomFanTable, fanSpeed, zoneSpeed,
      if_neg (Nat.ne_of_gt above)]

/-- The first zone of the GPU ends above the start of the second. -/
theorem gpuTable_uwInitFanSetup :
    let ram := (reliableEc.run uwInitFanSetup machine).2.2
    zoneCell ram 0x0f30 0 = 120 ∧ zoneCell ram 0x0f40 1 = 116 :=
  ⟨zoneCell_uwInitFanSetup machine (by decide +kernel),
    zoneCell_uwInitFanSetup machine (by decide +kernel)⟩

end Setup

/-! ## Changes of the speeds -/

/-- Fan requests change the speeds of the first zones, and the two registers
of the direct control. -/
def SpeedRegister (address : U16) : Prop :=
  address = 0x0f20 ∨ address = 0x0f50 ∨ address = 0x1804 ∨ address = 0x1809

instance (address : U16) : Decidable (SpeedRegister address) :=
  inferInstanceAs (Decidable (_ ∨ _ ∨ _ ∨ _))

/-- The new speeds are at most the highest. -/
structure SpeedChange (before after : Ram) : Prop where
  elsewhere : ∀ address, ¬ SpeedRegister address →
    after address = before address
  cpu : after 0x0f20 = before 0x0f20 ∨ after 0x0f20 ≤ 0xc8
  gpu : after 0x0f50 = before 0x0f50 ∨ after 0x0f50 ≤ 0xc8

namespace SpeedChange

variable {before after : Ram}

protected theorem refl (ram : Ram) : SpeedChange ram ram where
  elsewhere := fun _ _ => rfl
  cpu := Or.inl rfl
  gpu := Or.inl rfl

theorem customTablesOn_iff (change : SpeedChange before after) :
    CustomTablesOn after ↔ CustomTablesOn before := by
  rw [CustomTablesOn, change.elsewhere 0x07c5 (by decide),
    change.elsewhere 0x07c6 (by decide), CustomTablesOn]

/-- A table with no speed register but the speed of its first zone stays well
formed. -/
theorem wellFormed_of_apart (change : SpeedChange before after)
    {table : CustomFanTable}
    (apart : ∀ i < customFanTableZones,
      ¬ SpeedRegister (table.startTemp + BitVec.ofNat 16 i) ∧
        ¬ SpeedRegister (table.endTemp + BitVec.ofNat 16 i) ∧
        (0 < i → ¬ SpeedRegister (table.fanSpeed + BitVec.ofNat 16 i)))
    (first :
      zoneCell after table.fanSpeed 0 = zoneCell before table.fanSpeed 0 ∨
        zoneCell after table.fanSpeed 0 ≤ 0xc8)
    (wellFormed : table.WellFormed before) : table.WellFormed after := by
  have startTemp : ∀ i < customFanTableZones,
      zoneCell after table.startTemp i = zoneCell before table.startTemp i :=
    fun i zone => change.elsewhere _ (apart i zone).1
  have endTemp : ∀ i < customFanTableZones,
      zoneCell after table.endTemp i = zoneCell before table.endTemp i :=
    fun i zone => change.elsewhere _ (apart i zone).2.1
  have fastest : ∀ i < customFanTableZones, 0 < i →
      zoneCell after table.fanSpeed i = 0xc8 := by
    intro i zone above
    rw [← wellFormed.fastest i zone above]
    exact change.elsewhere _ ((apart i zone).2.2 above)
  have slowest : zoneCell after table.fanSpeed 0 ≤ 0xc8 := by
    rcases first with same | inRange
    · rw [same, ← wellFormed.fastest 1 (by decide) (by decide)]
      exact wellFormed.rising 0 (by decide)
    · exact inRange
  exact
    { nonempty := by
        intro i zone
        rw [startTemp i zone, endTemp i zone]
        exact wellFormed.nonempty i zone
      ordered := by
        intro i zone
        rw [endTemp i (Nat.lt_of_lt_pred zone),
          startTemp (i + 1) (Nat.add_lt_of_lt_sub zone)]
        exact wellFormed.ordered i zone
      rising := by
        intro i zone
        rw [fastest (i + 1) (Nat.add_lt_of_lt_sub zone) (Nat.succ_pos i)]
        cases i with
        | zero =>
            exact slowest
        | succ i =>
            rw [fastest (i + 1) (Nat.lt_of_lt_pred zone) (Nat.succ_pos i)]
            exact BitVec.le_refl _
      fastest := fastest }

theorem wellFormed_cpu (change : SpeedChange before after)
    (wellFormed : cpuCustomFanTable.WellFormed before) :
    cpuCustomFanTable.WellFormed after :=
  change.wellFormed_of_apart (by decide) change.cpu wellFormed

theorem wellFormed_gpu (change : SpeedChange before after)
    (wellFormed : gpuCustomFanTable.WellFormed before) :
    gpuCustomFanTable.WellFormed after :=
  change.wellFormed_of_apart (by decide) change.gpu wellFormed

protected theorem update (change : SpeedChange before after)
    {address : U16} {fanSpeed : U8} (speed : SpeedRegister address)
    (inRange : fanSpeed ≤ 0xc8) :
    SpeedChange before (Function.update after address fanSpeed) where
  elsewhere := by
    intro other notSpeed
    have apart : other ≠ address := by
      rintro rfl
      exact notSpeed speed
    rw [Function.update_of_ne apart]
    exact change.elsewhere other notSpeed
  cpu := by
    by_cases same : 0x0f20 = address
    · cases same
      rw [Function.update_self]
      exact Or.inr inRange
    · rw [Function.update_of_ne same]
      exact change.cpu
  gpu := by
    by_cases same : 0x0f50 = address
    · cases same
      rw [Function.update_self]
      exact Or.inr inRange
    · rw [Function.update_of_ne same]
      exact change.gpu

end SpeedChange

theorem gpuTable_notWellFormed (machine : Machine Ram) {after : Ram}
    (change :
      SpeedChange (reliableEc.run uwInitFanSetup machine).2.2 after) :
    ¬ gpuCustomFanTable.WellFormed after := by
  intro wellFormed
  obtain ⟨firstEnd, secondStart⟩ := gpuTable_uwInitFanSetup machine
  have ordered := wellFormed.ordered 0 (by decide)
  have endTemp : zoneCell after 0x0f30 0 = 120 :=
    (change.elsewhere _ (by decide)).trans firstEnd
  have startTemp : zoneCell after 0x0f40 1 = 116 :=
    (change.elsewhere _ (by decide)).trans secondStart
  rw [gpuCustomFanTable, endTemp, startTemp] at ordered
  exact absurd ordered (by decide)

/-! ## What a step does to the tables -/

private theorem normaliseFanSpeed_le {fanSpeed : U8}
    (inRange : fanSpeed.toNat ≤ nb02FanSpeedMax) :
    normaliseFanSpeed fanSpeed ≤ 0xc8 := by
  revert fanSpeed
  decide

private theorem ram_directFanControl (second : Bool) (fanSpeed : U8)
    (machine : Machine Ram) :
    (reliableEc.run (directFanControl (fanSelect second) fanSpeed false)
        machine).2.2 =
      Function.update machine.2 (directSpeedRegister (fanSelect second))
        fanSpeed := by
  cases second <;>
    simp [directFanControl, directFanControlApply, fanSelect,
      directSpeedRegister]

private theorem speedRegister_fanSelect (second : Bool) :
    SpeedRegister (tableSpeedRegister (fanSelect second)) ∧
      SpeedRegister (directSpeedRegister (fanSelect second)) := by
  revert second
  decide

private theorem speedChange_uwSetFanTables (second : Bool) {fanSpeed : U8}
    (inRange : fanSpeed.toNat ≤ nb02FanSpeedMax) (machine : Machine Ram) :
    SpeedChange (reliableEc.run uwInitFan machine).2.2
      (reliableEc.run (uwSetFanTables (fanSelect second) fanSpeed)
        machine).2.2 := by
  obtain ⟨table, direct⟩ := speedRegister_fanSelect second
  have slow := normaliseFanSpeed_le inRange
  simp only [uwSetFanTables, run_bind, run_uniwillWriteEcRam,
    ram_directFanControl, reliableEc_write]
  exact ((SpeedChange.refl _).update table slow).update direct slow

section Steps

variable {machine : Machine Ram}
  (universal : machine.1.hasUniversalEcFanControl = true)

include universal

/-- What the custom tables are after `uw_init_fan`, if the request gets
there. -/
private theorem ram_uwInitFan :
    (reliableEc.run uwInitFan machine).2.2 =
      if machine.1.fan.fansInitialized = false then
        (reliableEc.run uwInitFanSetup machine).2.2
      else machine.2 := by
  unfold DriverState.hasUniversalEcFanControl at universal
  simp only [run_uwInitFan, universal, and_true]

/-- A request changes speeds only, after the set-up if it makes one. -/
private theorem speedChange_uwSetFan (fanIndex : U32) (fanSpeed : U8) :
    SpeedChange
      (if machine.2 0x0751 &&& 0x40 = 0 ∧
          machine.1.fan.fansInitialized = false then
        (reliableEc.run uwInitFanSetup machine).2.2
      else machine.2)
      (reliableEc.run (uwSetFan fanIndex fanSpeed) machine).2.2 := by
  by_cases fullFanMode : FullFanMode (reliableEc.fanMode machine.2)
  · have notAvailable : ¬ machine.2 0x0751 &&& 0x40 = 0 := fullFanMode
    rw [(run_uwSetFan_ignored reliableEc fanIndex fanSpeed universal
      fullFanMode).1, if_neg fun setsUp => notAvailable setsUp.1]
    exact SpeedChange.refl _
  · have available : machine.2 0x0751 &&& 0x40 = 0 := not_not.mp fullFanMode
    simp only [available, true_and, ← ram_uwInitFan universal]
    by_cases accepted : AcceptedFanRequest fanIndex fanSpeed
    · rw [(run_uwSetFan_accepted reliableEc fanIndex fanSpeed universal
        fullFanMode accepted).1]
      obtain ⟨second, rfl⟩ := fanSelect_of_accepted accepted.1
      exact speedChange_uwSetFanTables second accepted.2 machine
    · rw [(run_uwSetFan_rejected reliableEc fanIndex fanSpeed universal
        fullFanMode accepted).1]
      exact SpeedChange.refl _

theorem speedChange_setFan_setUp {fanIndex : U32} {fanSpeed : U8}
    (setsUp : SetsTablesUp (.setFan fanIndex fanSpeed) machine) :
    SpeedChange (reliableEc.run uwInitFanSetup machine).2.2
      (applyFanTable (.setFan fanIndex fanSpeed) machine).2 := by
  have change := speedChange_uwSetFan universal fanIndex fanSpeed
  have needed : machine.2 0x0751 &&& 0x40 = 0 ∧
      machine.1.fan.fansInitialized = false := setsUp
  rw [if_pos needed] at change
  exact change

theorem speedChange_setFan {fanIndex : U32} {fanSpeed : U8}
    (setUpBefore : ¬ SetsTablesUp (.setFan fanIndex fanSpeed) machine) :
    SpeedChange machine.2
      (applyFanTable (.setFan fanIndex fanSpeed) machine).2 := by
  have change := speedChange_uwSetFan universal fanIndex fanSpeed
  have notNeeded : ¬ (machine.2 0x0751 &&& 0x40 = 0 ∧
      machine.1.fan.fansInitialized = false) := setUpBefore
  rw [if_neg notNeeded] at change
  exact change

omit universal in
/-- The set-up switches the tables on. -/
theorem customTablesOn_uwInitFanSetup :
    CustomTablesOn (reliableEc.run uwInitFanSetup machine).2.2 := by
  have set : ∀ byte : U8,
      (byte ||| 0x80) &&& 0x80 ≠ 0 ∧ (byte ||| 0x04) &&& 0x04 ≠ 0 := by
    decide
  obtain ⟨-, tables0, tables1⟩ := run_uwInitFanSetup machine
  rw [CustomTablesOn, tables0, tables1]
  exact ⟨(set _).1, (set _).2⟩

theorem customTablesOff_setFanAuto :
    ¬ CustomTablesOn (applyFanTable .setFanAuto machine).2 := by
  have cleared : ∀ byte : U8, (byte &&& ~~~0x80) &&& 0x80 = 0 := by
    decide
  have tables0 := congrArg FanView.tables0 (fanView_uwSetFanAuto machine)
  have flag : (fanView machine).universal = true := universal
  rw [FanView.setFanAuto, if_pos flag] at tables0
  intro on
  refine on.1 ?_
  change (fanView (reliableEc.run uwSetFanAuto machine).2).tables0 &&& _ = 0
  rw [tables0]
  exact cleared _

theorem universal_applyFanTable (step : FanTableStep) :
    (applyFanTable step machine).1.hasUniversalEcFanControl = true := by
  have flag : (fanView machine).universal = true := universal
  change (fanView (applyFanTable step machine)).universal = true
  cases step with
  | setFan fanIndex fanSpeed =>
      rw [applyFanTable, fanView_uwSetFan, FanView.setFan, if_pos flag,
        FanView.init]
      split_ifs <;> exact flag
  | setFanAuto =>
      rw [applyFanTable, fanView_uwSetFanAuto, FanView.setFanAuto,
        if_pos flag]
      exact flag

/-- A set-up leaves the CPU table well formed and the GPU table not. -/
theorem customTables_setUp {fanIndex : U32} {fanSpeed : U8}
    (setsUp : SetsTablesUp (.setFan fanIndex fanSpeed) machine) :
    let after := applyFanTable (.setFan fanIndex fanSpeed) machine
    CustomTablesOn after.2 ∧ cpuCustomFanTable.WellFormed after.2 ∧
      ¬ gpuCustomFanTable.WellFormed after.2 := by
  have change := speedChange_setFan_setUp universal setsUp
  have cpu := cpuTable_uwInitFanSetup_wellFormed machine
  exact
    ⟨change.customTablesOn_iff.mpr customTablesOn_uwInitFanSetup,
      change.wellFormed_cpu cpu, gpuTable_notWellFormed machine change⟩

end Steps

/-! ## Runs -/

section Runs

variable {machine : Machine Ram}
  (universal : machine.1.hasUniversalEcFanControl = true)

include universal

/-- A step keeps the CPU table well formed. -/
theorem cpuTable_applyFanTable (step : FanTableStep)
    (valid : cpuCustomFanTable.Valid machine) :
    cpuCustomFanTable.Valid (applyFanTable step machine) := by
  intro on
  cases step with
  | setFan fanIndex fanSpeed =>
      by_cases setsUp : SetsTablesUp (.setFan fanIndex fanSpeed) machine
      · exact (customTables_setUp universal setsUp).2.1
      · have change := speedChange_setFan universal setsUp
        exact change.wellFormed_cpu (valid (change.customTablesOn_iff.mp on))
  | setFanAuto =>
      exact absurd on (customTablesOff_setFanAuto universal)

/-- A step keeps the GPU table well formed exactly if it does not set the
tables up. -/
theorem gpuTable_applyFanTable_iff (step : FanTableStep)
    (valid : gpuCustomFanTable.Valid machine) :
    gpuCustomFanTable.Valid (applyFanTable step machine) ↔
      ¬ SetsTablesUp step machine := by
  cases step with
  | setFan fanIndex fanSpeed =>
      by_cases setsUp : SetsTablesUp (.setFan fanIndex fanSpeed) machine
      · obtain ⟨on, -, notWellFormed⟩ := customTables_setUp universal setsUp
        exact
          iff_of_false (fun validAfter => notWellFormed (validAfter on))
            (not_not.mpr setsUp)
      · have change := speedChange_setFan universal setsUp
        refine iff_of_true ?_ setsUp
        intro on
        exact change.wellFormed_gpu (valid (change.customTablesOn_iff.mp on))
  | setFanAuto =>
      refine iff_of_true ?_ not_false
      intro on
      exact absurd on (customTablesOff_setFanAuto universal)

theorem customTablesValid_applyFanTable_iff (step : FanTableStep)
    (valid : CustomTablesValid machine) :
    CustomTablesValid (applyFanTable step machine) ↔
      ¬ SetsTablesUp step machine := by
  obtain ⟨cpu, gpu⟩ := (customTablesValid_iff machine).mp valid
  rw [customTablesValid_iff, gpuTable_applyFanTable_iff universal step gpu]
  exact and_iff_right (cpuTable_applyFanTable universal step cpu)

/-- The CPU table is well formed in every state of a run. -/
theorem cpuTable_run (steps : List FanTableStep)
    (valid : cpuCustomFanTable.Valid machine) :
    cpuCustomFanTable.Valid (runSteps applyFanTable steps machine) := by
  have kept :=
    runSteps_preserves applyFanTable
      (fun reached : Machine Ram =>
        reached.1.hasUniversalEcFanControl = true ∧
          cpuCustomFanTable.Valid reached)
      (fun step reached holds =>
        ⟨universal_applyFanTable holds.1 step,
          cpuTable_applyFanTable holds.1 step holds.2⟩)
      steps ⟨universal, valid⟩
  exact kept.2

/-- Both tables are well formed in every state of a run exactly if they are
at the start and the run does not set them up. -/
theorem customTablesValid_throughout_iff (steps : List FanTableStep) :
    Throughout applyFanTable CustomTablesValid steps machine ↔
      CustomTablesValid machine ∧
        EachStep applyFanTable (fun step reached => ¬ SetsTablesUp step reached)
          steps machine := by
  have exactly : CustomTablesValid machine →
      (Throughout applyFanTable CustomTablesValid steps machine ↔
        EachStep applyFanTable
          (fun step reached => ¬ SetsTablesUp step reached) steps machine) :=
    fun valid =>
      throughout_iff_eachStep_of_invariant
        (fun step reached validNow flag =>
          customTablesValid_applyFanTable_iff flag step validNow)
        (fun step reached _ flag _ => universal_applyFanTable flag step)
        steps valid universal
  constructor
  · intro throughout
    have initially : CustomTablesValid machine :=
      throughout [] List.nil_prefix
    exact ⟨initially, (exactly initially).mp throughout⟩
  · rintro ⟨initially, noSetUp⟩
    exact (exactly initially).mpr noSetUp

end Runs

/-- A device with universal fan control, fans that are initialised, and both
tables on and well formed. -/
def tablesOnMachine : Machine Ram :=
  ({ uniwillDeviceFeatures := { uniwillHasUniversalEcFanControl := true },
     fan.fansInitialized := true },
    fun address =>
      match address.toNat / 16 with
      | 0xf0 | 0xf3 => zoneEnd (address.toNat % 16)
      | 0xf1 | 0xf4 => zoneStart (address.toNat % 16)
      | 0xf2 | 0xf5 => zoneSpeed (address.toNat % 16)
      | 0x7c => 0x84
      | _ => 0)

theorem tablesOnMachine_valid : CustomTablesValid tablesOnMachine := by
  intro on
  constructor
  · constructor <;> decide +kernel
  · constructor <;> decide +kernel

/-- Requests for both fans and one for automatic control. -/
theorem customTablesValid_throughout_requests :
    CustomTablesOn tablesOnMachine.2 ∧
      Throughout applyFanTable CustomTablesValid
        [.setFan 0 100, .setFan 1 60, .setFanAuto] tablesOnMachine := by
  have on : tablesOnMachine.2 0x07c5 &&& 0x80 ≠ 0 ∧
      tablesOnMachine.2 0x07c6 &&& 0x04 ≠ 0 := by
    decide +kernel
  have initialized :
      (applyFanTable (.setFan 0 100)
        tablesOnMachine).1.fan.fansInitialized = true := by
    decide +kernel
  refine ⟨on, ?_⟩
  refine
    (customTablesValid_throughout_iff rfl
      [.setFan 0 100, .setFan 1 60, .setFanAuto]).mpr
      ⟨tablesOnMachine_valid, ?_, ?_, not_false, trivial⟩
  · exact fun setsUp => absurd setsUp.2 (by decide)
  · exact fun setsUp => absurd setsUp.2 (ne_false_of_eq_true initialized)

/-- A device with universal fan control whose EC contains zeros. -/
def zeroedFanMachine : Machine Ram :=
  ({ uniwillDeviceFeatures := { uniwillHasUniversalEcFanControl := true } },
    fun _ => 0)

/-- The first request for a speed switches on tables whose first GPU zone ends
at 120 degrees and whose second starts at 116. -/
theorem customTablesValid_firstRequest :
    let after := applyFanTable (.setFan 0 100) zeroedFanMachine
    CustomTablesOn after.2 ∧
      zoneCell after.2 gpuCustomFanTable.endTemp 0 = 120 ∧
      zoneCell after.2 gpuCustomFanTable.startTemp 1 = 116 ∧
      ¬ Throughout applyFanTable CustomTablesValid [.setFan 0 100]
        zeroedFanMachine := by
  intro after
  have cells :
      (after.2 0x07c5 &&& 0x80 ≠ 0 ∧ after.2 0x07c6 &&& 0x04 ≠ 0) ∧
        zoneCell after.2 gpuCustomFanTable.endTemp 0 = 120 ∧
        zoneCell after.2 gpuCustomFanTable.startTemp 1 = 116 := by
    decide +kernel
  obtain ⟨on, firstEnd, secondStart⟩ := cells
  refine ⟨on, firstEnd, secondStart, ?_⟩
  intro throughout
  have valid : CustomTablesValid after :=
    throughout [.setFan 0 100] (List.prefix_refl _)
  have ordered := (valid on).2.ordered 0 (by decide)
  rw [firstEnd, secondStart] at ordered
  exact absurd ordered (by decide)

end TuxedoDrivers.Uniwill
