import TuxedoDrivers.Uniwill.DeviceFeatures
import TuxedoDrivers.Uniwill.FanRequests

/-!
# Undoing fan requests

`W_UW_FANAUTO` is documented as undoing all earlier fan speed requests.  The
requests set the fans up in one of two ways and `uw_set_fan_auto` undoes one
of the two, each chosen by the feature flag as it is at that moment; and the
flag can change when the features are loaded again.

Who controls the fans is decided by seven values of the machine, its view.
Every step of a run acts on the view alone, so the runs of the driver are
simulated by runs of a small machine, whose invariant gives the main result:
the undo is complete exactly when all requests that took the fans over did so
under the flag that `uw_set_fan_auto` finds.
-/

namespace TuxedoDrivers.Uniwill

open Interaction

/-! ## The view -/

/-- What decides who controls the fans: the feature flag, the variables of
the fan control, the mode register 0x0751, and the registers 0x07c5 and
0x07c6 that switch the custom tables on. -/
@[ext]
structure FanView where
  universal : Bool
  initialized : Bool
  started : Bool
  pending : Bool
  mode : U8
  tables0 : U8
  tables1 : U8
  deriving DecidableEq, Repr

def fanView (machine : Machine Ram) : FanView where
  universal := machine.1.hasUniversalEcFanControl
  initialized := machine.1.fan.fansInitialized
  started := machine.1.fan.directFanControlStarted
  pending := machine.1.fan.restartWorkPending
  mode := machine.2 0x0751
  tables0 := machine.2 0x07c5
  tables1 := machine.2 0x07c6

namespace FanView

/-- The one-time set-up. -/
def init (view : FanView) : FanView :=
  if view.initialized = true then view
  else
    { view with
      initialized := true
      mode := view.mode &&& ~~~0x40
      tables0 := view.tables0 ||| 0x80
      tables1 := view.tables1 ||| 0x04 }

def start (view : FanView) : FanView :=
  if view.started = true then view
  else { view with started := true, pending := true }

def setFan (fanIndex : U32) (view : FanView) : FanView :=
  if view.universal = true then
    if view.mode &&& 0x40 = 0 then view.init else view
  else if fanIndex.toNat ≤ 1 then view.start
  else view

def restartWork (view : FanView) : FanView :=
  { view with
    pending := true
    mode := (view.mode &&& ~~~0x40) ||| 0x40 }

def setFanAuto (view : FanView) : FanView :=
  if view.universal = true then
    { view with
      initialized := false
      tables0 := view.tables0 &&& ~~~0x80
      tables1 := view.tables1 &&& ~~~0x04 }
  else
    { view with
      started := false
      pending := false
      mode := view.mode &&& 0xbf }

end FanView

/-! ## The operations on the view -/

private theorem fanView_uwInitFan
    {machine : Machine Ram}
    (universal : machine.1.hasUniversalEcFanControl = true) :
    fanView (reliableEc.run uwInitFan machine).2 =
      (fanView machine).init := by
  obtain ⟨mode, tables0, tables1⟩ := run_uwInitFanSetup machine
  unfold DriverState.hasUniversalEcFanControl at universal
  rw [run_uwInitFan]
  cases initialized : machine.1.fan.fansInitialized with
  | false =>
      simp only [fanView, FanView.init, universal, initialized, mode,
        tables0, tables1, DriverState.hasUniversalEcFanControl, and_self,
        Bool.false_eq_true, reduceIte]
  | true =>
      simp [fanView, FanView.init, initialized,
        DriverState.hasUniversalEcFanControl]

/-- Accesses to the speed registers do not show in the view. -/
private theorem fanView_directFanControl
    (second : Bool) (fanSpeed : U8) (machine : Machine Ram) :
    fanView (reliableEc.run
        (directFanControl (fanSelect second) fanSpeed false) machine).2 =
      fanView machine := by
  cases second <;>
    simp [directFanControl, directFanControlApply, fanSelect, fanView,
      DriverState.hasUniversalEcFanControl]

private theorem fanView_directFanControl_start
    (second : Bool) (fanSpeed : U8) (machine : Machine Ram) :
    fanView (reliableEc.run
        (directFanControl (fanSelect second) fanSpeed true) machine).2 =
      (fanView machine).start := by
  cases second <;>
    cases started : machine.1.fan.directFanControlStarted <;>
      simp [directFanControl, directFanControlApply, fanSelect, fanView,
        FanView.start, started, DriverState.hasUniversalEcFanControl]

private theorem fanView_uwSetFanTables
    {machine : Machine Ram}
    (universal : machine.1.hasUniversalEcFanControl = true)
    (second : Bool) (fanSpeed : U8) :
    fanView (reliableEc.run (uwSetFanTables (fanSelect second) fanSpeed)
        machine).2 =
      (fanView machine).init := by
  rw [← fanView_uwInitFan universal]
  simp only [uwSetFanTables, run_bind, fanView_directFanControl]
  cases second <;>
    simp [fanView, tableSpeedRegister, fanSelect]

theorem fanSelect_of_accepted
    {fanIndex : U32} (exists_fan : fanIndex.toNat ≤ 1) :
    ∃ second, fanIndex = fanSelect second := by
  rcases fanIndex_cases fanIndex with rfl | rfl | large
  · exact ⟨false, rfl⟩
  · exact ⟨true, rfl⟩
  · omega

theorem fanView_uwSetFan
    (fanIndex : U32) (fanSpeed : U8) (machine : Machine Ram) :
    fanView (reliableEc.run (uwSetFan fanIndex fanSpeed) machine).2 =
      (fanView machine).setFan fanIndex := by
  cases universal : machine.1.hasUniversalEcFanControl with
  | false =>
      rw [(run_uwSetFan_direct reliableEc fanIndex fanSpeed universal).1,
        FanView.setFan, if_neg (by simp [fanView, universal])]
      split
      · obtain ⟨second, rfl⟩ := fanSelect_of_accepted ‹_›
        exact fanView_directFanControl_start second fanSpeed machine
      · have notFirst : fanIndex ≠ 0 := by
          rintro rfl
          contradiction
        have notSecond : fanIndex ≠ 1 := by
          rintro rfl
          contradiction
        rw [directFanControl, if_neg notFirst, if_neg notSecond, run_pure]
  | true =>
      rw [FanView.setFan, if_pos (by simp [fanView, universal])]
      by_cases fullFanMode : FullFanMode (reliableEc.fanMode machine.2)
      · rw [(run_uwSetFan_ignored reliableEc fanIndex fanSpeed universal
          fullFanMode).1]
        exact (if_neg fullFanMode).symm
      · have available : (fanView machine).mode &&& 0x40 = 0 :=
          not_not.mp fullFanMode
        rw [if_pos available]
        by_cases accepted : AcceptedFanRequest fanIndex fanSpeed
        · rw [(run_uwSetFan_accepted reliableEc fanIndex fanSpeed universal
            fullFanMode accepted).1]
          obtain ⟨second, rfl⟩ := fanSelect_of_accepted accepted.1
          exact fanView_uwSetFanTables universal second fanSpeed
        · rw [(run_uwSetFan_rejected reliableEc fanIndex fanSpeed universal
            fullFanMode accepted).1]
          exact fanView_uwInitFan universal

theorem fanView_runRestartWork (machine : Machine Ram) :
    fanView (reliableEc.run runRestartWork machine).2 =
      (fanView machine).restartWork := by
  rw [run_runRestartWork]
  simp [fanView, FanView.restartWork, DriverState.hasUniversalEcFanControl]

/-- Clearing a bit by subtraction, as `uw_set_fan_auto` does. -/
private theorem uwDisableCustomFanTable_byte (value : U8) :
    (if (value >>> 7) &&& 1 ≠ 0 then value - (1 <<< 7) else value) =
        value &&& ~~~0x80 ∧
      (if (value >>> 2) &&& 1 ≠ 0 then value - (1 <<< 2) else value) =
        value &&& ~~~0x04 := by
  revert value
  decide

theorem run_uwDisableCustomFanTable (address : U16) (offset : Nat)
    (machine : Machine Ram) :
    reliableEc.run (uwDisableCustomFanTable address offset) machine =
      ((), machine.1,
        Function.update machine.2 address
          (if (machine.2 address >>> offset) &&& 1 ≠ 0 then
            machine.2 address - (1 <<< offset)
          else machine.2 address)) := by
  simp only [uwDisableCustomFanTable, run_bind, run_uniwillReadEcRam,
    reliableEc_read, EcRead.data_ok, run_ite]
  split
  · simp
  · simp

theorem fanView_uwSetFanAuto (machine : Machine Ram) :
    fanView (reliableEc.run uwSetFanAuto machine).2 =
      (fanView machine).setFanAuto := by
  cases universal : machine.1.hasUniversalEcFanControl with
  | false =>
      have direct := universal
      unfold DriverState.hasUniversalEcFanControl at direct
      simp [uwSetFanAuto, uwSetFanAutoDirect, fanView, FanView.setFanAuto,
        direct, DriverState.hasUniversalEcFanControl]
  | true =>
      have tables := universal
      unfold DriverState.hasUniversalEcFanControl at tables
      simp only [uwSetFanAuto, uwSetFanAutoTables, run_bind,
        run_getStatics, tables, if_true, run_uwDisableCustomFanTable,
        uwDisableCustomFanTable_byte, run_setStatics, run_pure]
      simp [fanView, FanView.setFanAuto, tables,
        DriverState.hasUniversalEcFanControl]

/-! ## Runs -/

/-- What happens between two `W_UW_FANAUTO`: fan requests, runs of the
restart work, and loads of the features, in which EC reads may fail. -/
inductive FanStep where
  | setFan (fanIndex : U32) (fanSpeed : U8)
  | restartWork
  | loadFeatures (outcomes : List AccessOutcome)

namespace FanStep

/-- The restart work only runs when it is pending. -/
def apply (dmi : Dmi) : FanStep → Machine Ram → Machine Ram
  | .setFan fanIndex fanSpeed, machine =>
      (reliableEc.run (uwSetFan fanIndex fanSpeed) machine).2
  | .restartWork, machine =>
      if machine.1.fan.restartWorkPending = true then
        (reliableEc.run runRestartWork machine).2
      else machine
  | .loadFeatures outcomes, machine =>
      let loaded :=
        (faultyEc.run (uniwillGetDeviceFeatures dmi)
          (machine.1, ⟨machine.2, outcomes⟩)).2
      (loaded.1, loaded.2.ram)

/-- The step is a request that takes the fans over: one for which the device
is available, under universal fan control, or one for a fan that exists. -/
def TakesOver : FanStep → FanView → Prop
  | .setFan fanIndex _, view =>
      if view.universal = true then view.mode &&& 0x40 = 0
      else fanIndex.toNat ≤ 1
  | .restartWork, _ => False
  | .loadFeatures _, _ => False

end FanStep

def runFanSteps (dmi : Dmi) (steps : List FanStep)
    (machine : Machine Ram) : Machine Ram :=
  steps.foldl (fun current step => step.apply dmi current) machine

/-- Every request of the run that takes the fans over does so under this
value of the feature flag. -/
def TakenOverUnder (dmi : Dmi) (universal : Bool) :
    List FanStep → Machine Ram → Prop
  | [], _ => True
  | step :: rest, machine =>
      (step.TakesOver (fanView machine) →
          machine.1.hasUniversalEcFanControl = universal) ∧
        TakenOverUnder dmi universal rest (step.apply dmi machine)

/-! ## The steps on the view -/

namespace FanView

/-- The fans were taken over in this way. -/
def tookOver (universal : Bool) (view : FanView) : Bool :=
  if universal = true then view.initialized else view.started

theorem tookOver_init (universal : Bool) (view : FanView) :
    view.init.tookOver universal =
      (universal || view.tookOver universal) := by
  cases universal
  · unfold init
    split <;> rfl
  · unfold init
    split
    · assumption
    · rfl

theorem tookOver_start (universal : Bool) (view : FanView) :
    view.start.tookOver universal =
      (!universal || view.tookOver universal) := by
  cases universal
  · unfold start
    split
    · assumption
    · rfl
  · unfold start
    split <;> rfl

/-- A request takes the fans over, if it does, in the way of the flag. -/
theorem tookOver_setFan_iff (universal : Bool) (fanIndex : U32)
    (view : FanView) :
    (view.setFan fanIndex).tookOver universal = true ↔
      view.tookOver universal = true ∨
        ((if view.universal = true then view.mode &&& 0x40 = 0
          else fanIndex.toNat ≤ 1) ∧
          view.universal = universal) := by
  unfold setFan
  cases flag : view.universal with
  | false =>
      by_cases valid : fanIndex.toNat ≤ 1
      · cases universal <;> simp [valid, tookOver_start]
      · simp only [valid, Bool.false_eq_true, if_false, false_and, or_false]
  | true =>
      by_cases available : view.mode &&& 0x40 = 0
      · cases universal <;>
          simp only [available, if_true, tookOver_init] <;> simp
      · simp only [available, if_true, if_false, false_and, or_false]

/-- Invariant of the runs from `origin`: the tables are switched on exactly
when the set-up was made, and "full fan mode" can only be on when the restart
work is. -/
structure Consistent (origin view : FanView) : Prop where
  pending : view.pending = view.started
  mode :
    view.mode = origin.mode ∨
      (view.started = true ∧ view.mode = origin.mode ||| 0x40)
  tables0 :
    view.tables0 =
      if view.initialized = true then origin.tables0 ||| 0x80
      else origin.tables0
  tables1 :
    view.tables1 =
      if view.initialized = true then origin.tables1 ||| 0x04
      else origin.tables1

theorem Consistent.init {origin view : FanView}
    (consistent : Consistent origin view)
    (available : view.mode &&& 0x40 = 0) :
    Consistent origin view.init := by
  have kept : view.mode &&& ~~~0x40 = view.mode := by
    generalize view.mode = mode at available
    revert mode
    decide
  unfold FanView.init
  split
  · exact consistent
  · exact
      { pending := consistent.pending
        mode := by
          rw [kept]
          exact consistent.mode
        tables0 := by
          have tables := consistent.tables0
          simp_all
        tables1 := by
          have tables := consistent.tables1
          simp_all }

theorem Consistent.start {origin view : FanView}
    (consistent : Consistent origin view) :
    Consistent origin view.start := by
  unfold FanView.start
  split
  · exact consistent
  · exact
      { consistent with
        pending := rfl
        mode := consistent.mode.imp_right fun full => ⟨rfl, full.2⟩ }

theorem Consistent.restartWork {origin view : FanView}
    (consistent : Consistent origin view)
    (pending : view.pending = true) :
    Consistent origin view.restartWork := by
  have started : view.started = true :=
    consistent.pending.symm.trans pending
  have switched : ∀ mode : U8,
      (mode &&& ~~~0x40) ||| 0x40 = mode ||| 0x40 ∧
        ((mode ||| 0x40) &&& ~~~0x40) ||| 0x40 = mode ||| 0x40 := by
    decide
  exact
    { consistent with
      pending := started.symm
      mode := by
        refine Or.inr ⟨started, ?_⟩
        rcases consistent.mode with same | ⟨-, full⟩
        · simp only [FanView.restartWork, same, (switched origin.mode).1]
        · simp only [FanView.restartWork, full, (switched origin.mode).2] }

end FanView

/-- Loading the features changes the flag of the view at most. -/
private theorem fanView_loadFeatures
    (dmi : Dmi) (outcomes : List AccessOutcome) (machine : Machine Ram) :
    fanView ((FanStep.loadFeatures outcomes).apply dmi machine) =
      { fanView machine with
        universal :=
          (fanView ((FanStep.loadFeatures outcomes).apply dmi
            machine)).universal } := by
  obtain ⟨ramKept, fanKept⟩ :=
    run_uniwillGetDeviceFeatures_keeps dmi
      (machine.1, (⟨machine.2, outcomes⟩ : FaultyRam))
  have fanSame := congrArg Prod.fst fanKept
  change (faultyEc.run (uniwillGetDeviceFeatures dmi) _).2.1.fan =
    machine.1.fan at fanSame
  simp only [FanStep.apply, fanView, ramKept, fanSame]

theorem consistent_apply
    (dmi : Dmi) {origin : FanView} (step : FanStep) {machine : Machine Ram}
    (consistent : FanView.Consistent origin (fanView machine)) :
    FanView.Consistent origin (fanView (step.apply dmi machine)) := by
  cases step with
  | setFan fanIndex fanSpeed =>
      rw [FanStep.apply, fanView_uwSetFan, FanView.setFan]
      split
      · split
        · exact consistent.init ‹_›
        · exact consistent
      · split
        · exact consistent.start
        · exact consistent
  | restartWork =>
      rw [FanStep.apply]
      split
      · rw [fanView_runRestartWork]
        exact consistent.restartWork ‹_›
      · exact consistent
  | loadFeatures outcomes =>
      rw [fanView_loadFeatures]
      exact { consistent with }

theorem consistent_run
    (dmi : Dmi) {origin : FanView} (steps : List FanStep)
    {machine : Machine Ram}
    (consistent : FanView.Consistent origin (fanView machine)) :
    FanView.Consistent origin
      (fanView (runFanSteps dmi steps machine)) := by
  induction steps generalizing machine with
  | nil =>
      exact consistent
  | cons step rest inductionHypothesis =>
      exact inductionHypothesis (consistent_apply dmi step consistent)

/-- A step takes the fans over in the way of its flag, and no step of a run
gives them back. -/
theorem tookOver_apply_iff
    (dmi : Dmi) (universal : Bool) (step : FanStep)
    (machine : Machine Ram) :
    (fanView (step.apply dmi machine)).tookOver universal = true ↔
      (fanView machine).tookOver universal = true ∨
        (step.TakesOver (fanView machine) ∧
          machine.1.hasUniversalEcFanControl = universal) := by
  change _ ↔ _ ∨ _ ∧ (fanView machine).universal = universal
  cases step with
  | setFan fanIndex fanSpeed =>
      rw [FanStep.apply, fanView_uwSetFan]
      exact (fanView machine).tookOver_setFan_iff universal fanIndex
  | restartWork =>
      rw [FanStep.apply]
      split
      · rw [fanView_runRestartWork]
        simp [FanStep.TakesOver, FanView.restartWork, FanView.tookOver]
      · simp [FanStep.TakesOver]
  | loadFeatures outcomes =>
      rw [fanView_loadFeatures]
      simp [FanStep.TakesOver, FanView.tookOver]

theorem tookOver_run
    (dmi : Dmi) (universal : Bool) (steps : List FanStep)
    {machine : Machine Ram}
    (took : (fanView machine).tookOver universal = true) :
    (fanView (runFanSteps dmi steps machine)).tookOver universal = true := by
  induction steps generalizing machine with
  | nil =>
      exact took
  | cons step rest inductionHypothesis =>
      exact
        inductionHypothesis
          ((tookOver_apply_iff dmi universal step machine).mpr
            (Or.inl took))

/-- From fans that were not taken over in the other way, they still are not
at the end exactly when all requests went the way of this flag. -/
theorem takenOverUnder_iff
    (dmi : Dmi) (universal : Bool) (steps : List FanStep)
    {machine : Machine Ram}
    (initially : (fanView machine).tookOver (!universal) = false) :
    TakenOverUnder dmi universal steps machine ↔
      (fanView (runFanSteps dmi steps machine)).tookOver (!universal) =
        false := by
  induction steps generalizing machine with
  | nil =>
      exact iff_of_true trivial initially
  | cons step rest inductionHypothesis =>
      have after := tookOver_apply_iff dmi (!universal) step machine
      rw [initially] at after
      have otherWay : ∀ flag : Bool,
          flag = (!universal) ↔ flag ≠ universal := by
        cases universal <;> simp
      by_cases other :
          step.TakesOver (fanView machine) ∧
            machine.1.hasUniversalEcFanControl = !universal
      · have stays : (fanView (runFanSteps dmi (step :: rest)
            machine)).tookOver (!universal) = true :=
          tookOver_run dmi (!universal) rest (after.mpr (Or.inr other))
        refine iff_of_false ?_ (Bool.not_eq_false _ ▸ stays)
        intro under
        exact (otherWay _).mp other.2 (under.1 other.1)
      · have notYet :
            (fanView (step.apply dmi machine)).tookOver (!universal) =
              false := by
          rw [← Bool.not_eq_true, after]
          simpa using other
        refine Iff.trans ?_ (inductionHypothesis notYet)
        refine and_iff_right ?_
        intro takes
        by_contra differs
        exact other ⟨takes, (otherWay _).mpr differs⟩

/-! ## The undo -/

/-- The EC controls the fans, and the driver has nothing to undo. -/
structure FanView.Automatic (view : FanView) : Prop where
  mode : view.mode &&& 0x40 = 0
  tables0 : view.tables0 &&& 0x80 = 0
  tables1 : view.tables1 &&& 0x04 = 0
  initialized : view.initialized = false
  started : view.started = false
  pending : view.pending = false

/-- Automatic control is back, and all other bits of the three registers are
as before. -/
structure FansUndone (before after : FanView) : Prop where
  automatic : after.Automatic
  mode : after.mode = before.mode
  tables0 : after.tables0 = before.tables0
  tables1 : after.tables1 = before.tables1

/-- Clearing a bit that was clear gives the byte back, whether or not the
bit was set in between. -/
private theorem clearedBits (byte : U8) :
    (byte &&& 0x40 = 0 →
      byte &&& 0xbf = byte ∧ (byte ||| 0x40) &&& 0xbf = byte) ∧
    (byte &&& 0x80 = 0 →
      byte &&& ~~~0x80 = byte ∧ (byte ||| 0x80) &&& ~~~0x80 = byte) ∧
    (byte &&& 0x04 = 0 →
      byte &&& ~~~0x04 = byte ∧ (byte ||| 0x04) &&& ~~~0x04 = byte) := by
  revert byte
  decide

section Undo

variable {origin view : FanView}

/-- On the direct path nothing is left to undo if the tables were not set
up. -/
private theorem setFanAuto_direct
    (automatic : origin.Automatic)
    (consistent : FanView.Consistent origin view)
    (direct : view.universal = false)
    (notInitialized : view.initialized = false) :
    view.setFanAuto = { origin with universal := false } := by
  have cleared := (clearedBits origin.mode).1 automatic.mode
  have mode : view.mode &&& 0xbf = origin.mode := by
    rcases consistent.mode with same | ⟨-, full⟩
    · rw [same, cleared.1]
    · rw [full, cleared.2]
  have tables0 := consistent.tables0
  have tables1 := consistent.tables1
  rw [notInitialized, if_neg Bool.false_ne_true] at tables0 tables1
  rw [FanView.setFanAuto, if_neg (ne_true_of_eq_false direct)]
  exact
    FanView.ext direct
      (notInitialized.trans automatic.initialized.symm)
      automatic.started.symm automatic.pending.symm mode tables0 tables1

/-- On the path of the tables nothing is left to undo if the restart work
was not started. -/
private theorem setFanAuto_tables
    (automatic : origin.Automatic)
    (consistent : FanView.Consistent origin view)
    (universal : view.universal = true)
    (notStarted : view.started = false) :
    view.setFanAuto = { origin with universal := true } := by
  have pending : view.pending = false :=
    consistent.pending.trans notStarted
  have mode : view.mode = origin.mode := by
    rcases consistent.mode with same | ⟨running, -⟩
    · exact same
    · rw [notStarted] at running
      cases running
  have cleared0 := (clearedBits origin.tables0).2.1 automatic.tables0
  have cleared1 := (clearedBits origin.tables1).2.2 automatic.tables1
  have tables0 : view.tables0 &&& ~~~0x80 = origin.tables0 := by
    rw [consistent.tables0]
    split
    · exact cleared0.2
    · exact cleared0.1
  have tables1 : view.tables1 &&& ~~~0x04 = origin.tables1 := by
    rw [consistent.tables1]
    split
    · exact cleared1.2
    · exact cleared1.1
  rw [FanView.setFanAuto, if_pos universal]
  exact
    FanView.ext universal automatic.initialized.symm
      (notStarted.trans automatic.started.symm)
      (pending.trans automatic.pending.symm) mode tables0 tables1

/-- `uw_set_fan_auto` undoes what was done in the way of the flag it finds,
and nothing else. -/
theorem setFanAuto_undoes_iff
    (automatic : origin.Automatic)
    (consistent : FanView.Consistent origin view) :
    FansUndone origin view.setFanAuto ↔
      view.tookOver (!view.universal) = false := by
  cases flag : view.universal with
  | false =>
      constructor
      · intro undone
        have initialized := undone.automatic.initialized
        simpa [FanView.setFanAuto, flag, FanView.tookOver] using initialized
      · intro notInitialized
        rw [setFanAuto_direct automatic consistent flag notInitialized]
        exact ⟨{ automatic with }, rfl, rfl, rfl⟩
  | true =>
      constructor
      · intro undone
        have started := undone.automatic.started
        simpa [FanView.setFanAuto, flag, FanView.tookOver] using started
      · intro notStarted
        rw [setFanAuto_tables automatic consistent flag notStarted]
        exact ⟨{ automatic with }, rfl, rfl, rfl⟩

end Undo

theorem FanView.Automatic.tookOver {view : FanView}
    (automatic : view.Automatic) (universal : Bool) :
    view.tookOver universal = false := by
  cases universal
  · exact automatic.started
  · exact automatic.initialized

theorem FanView.Automatic.consistent {view : FanView}
    (automatic : view.Automatic) : FanView.Consistent view view where
  pending := automatic.pending.trans automatic.started.symm
  mode := Or.inl rfl
  tables0 := by simp [automatic.initialized]
  tables1 := by simp [automatic.initialized]

/-- `W_UW_FANAUTO` after any run undoes the run exactly when every request
that took the fans over did so under the value of the feature flag that
`uw_set_fan_auto` finds. -/
theorem uwSetFanAuto_undoes_iff
    (dmi : Dmi) (steps : List FanStep) {machine : Machine Ram}
    (automatic : (fanView machine).Automatic) :
    FansUndone (fanView machine)
        (fanView
          (reliableEc.run uwSetFanAuto (runFanSteps dmi steps machine)).2) ↔
      TakenOverUnder dmi
        (runFanSteps dmi steps machine).1.hasUniversalEcFanControl steps
        machine := by
  rw [fanView_uwSetFanAuto,
    setFanAuto_undoes_iff automatic
      (consistent_run dmi steps automatic.consistent)]
  exact (takenOverUnder_iff dmi _ steps (automatic.tookOver _)).symm

/-- A machine whose EC knows universal fan control, before the features are
loaded. -/
def unloadedMachine : Machine Ram :=
  ({}, fun address => if address = 0x078e then 0x40 else 0)

theorem unloadedMachine_automatic :
    (fanView unloadedMachine).Automatic where
  mode := by decide
  tables0 := by decide
  tables1 := by decide
  initialized := rfl
  started := rfl
  pending := rfl

/-- Loading the features first is enough for a complete undo. -/
theorem uwSetFanAuto_undoes_iff_loadedFirst :
    FansUndone (fanView unloadedMachine)
      (fanView
        (reliableEc.run uwSetFanAuto
          (runFanSteps (fun _ => none)
            [.loadFeatures [], .setFan 0 100, .setFan 1 100]
            unloadedMachine)).2) := by
  refine
    (uwSetFanAuto_undoes_iff (fun _ => none)
      [.loadFeatures [], .setFan 0 100, .setFan 1 100]
      unloadedMachine_automatic).mpr ?_
  refine ⟨fun impossible => impossible.elim, ?_, ?_, trivial⟩
  · exact fun _ => by decide +kernel
  · exact fun _ => by decide +kernel

/-- A load whose reads fail leaves the flag false, so the first request takes
the fans over directly; after the next load `uw_set_fan_auto` undoes the
tables, and "full fan mode" and the restart work stay. -/
theorem uwSetFanAuto_afterFailedLoad :
    let after :=
      (reliableEc.run uwSetFanAuto
        (runFanSteps (fun _ => none)
          [ .loadFeatures (List.replicate 8 ⟨false, false, 0xfe⟩),
            .setFan 0 100, .restartWork, .loadFeatures [] ]
          unloadedMachine)).2
    (fanView after).mode = 0x40 ∧ (fanView after).started = true ∧
      (fanView after).pending = true ∧
      ¬ FansUndone (fanView unloadedMachine) (fanView after) := by
  intro after
  have started : (fanView after).started = true := by
    decide +kernel
  refine ⟨by decide +kernel, started, by decide +kernel, fun undone => ?_⟩
  rw [undone.automatic.started] at started
  cases started

end TuxedoDrivers.Uniwill
