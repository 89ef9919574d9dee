import TuxedoDrivers.Interaction.KnownSetting
import TuxedoDrivers.Uniwill.EcAttributes

/-!
# Runs of the settings in EC registers

Stores, shows and restores come in any order and any access to the EC can
fail.  What the results tell about a setting is right all the same, and no bit
that belongs to no setting ever changes.
-/

namespace TuxedoDrivers.Uniwill

open Interaction

/-! ## Runs -/

/-- The machine, and what the results of the stores tell. -/
structure SettingRun (σ : Type) where
  machine : Machine σ
  known : EcSetting → Option U8

/-- What happens to the settings; a restore is what the driver does for the
charging settings after a change of the adapter and after a resume. -/
inductive SettingStep where
  | store (setting : EcSetting) (buffer : String) (size : Nat)
  | display (setting : EcSetting)
  | restore (setting : ChargingSetting)
  deriving DecidableEq, Repr

section Runs

variable {σ : Type} (device : EcDevice σ)

def settingStep : SettingStep → SettingRun σ → SettingRun σ
  | .store setting buffer size, run =>
      let reached := device.run (setting.store buffer size) run.machine
      let attempt :=
        (setting.asked buffer).map (·, decide (0 ≤ reached.1))
      { machine := reached.2
        known :=
          Function.update run.known setting
            (knownAfter (run.known setting) attempt) }
  | .display setting, run =>
      { run with machine := (device.run setting.display run.machine).2 }
  | .restore setting, run =>
      { run with machine := (device.run setting.writeState run.machine).2 }

variable {device} {ram : σ → Ram}

/-- What is known of a setting is in the RAM, and of a charging setting the
driver would restore the same. -/
structure SettingRun.Holds (ram : σ → Ram) (run : SettingRun σ) : Prop where
  inRam : ∀ setting : EcSetting,
    Fits (run.known setting)
      (ram run.machine.2 setting.register &&& setting.mask)
  remembered : ∀ setting : ChargingSetting,
    Fits (run.known (.charging setting))
      (BitVec.shiftLeft (setting.remembered run.machine.1) setting.shift)

namespace EcSetting

theorem put_self {setting : EcSetting} {bits : U8}
    (within : bits &&& ~~~setting.mask = 0) (ram : Ram) :
    setting.put bits ram setting.register &&& setting.mask = bits := by
  rw [put, Function.update_self]
  exact replaced_inside within

theorem put_of_ne {setting other : EcSetting} (different : other ≠ setting)
    (bits : U8) (ram : Ram) :
    setting.put bits ram other.register = ram other.register :=
  Function.update_of_ne (mt register_injective different) ..

theorem put_unowned {setting : EcSetting} {value bits : U8} {address : U16}
    (within : value &&& ~~~setting.mask = 0)
    (unowned : setting.register = address → bits &&& setting.mask = 0)
    (ram : Ram) :
    setting.put value ram address &&& bits = ram address &&& bits := by
  by_cases here : setting.register = address
  · subst here
    rw [put, Function.update_self]
    exact and_eq_of_outside (replaced_outside within) (unowned rfl)
  · rw [put, Function.update_of_ne (Ne.symm here)]

/-- A report is about the own bits. -/
theorem Reported.tried {setting : EcSetting} {bits : U8} {before after : Ram}
    {size : Nat} {result : Int}
    (within : bits &&& ~~~setting.mask = 0)
    (reported : setting.Reported bits before after size result) :
    Tried (before setting.register &&& setting.mask)
      (after setting.register &&& setting.mask)
      (some (bits, decide (0 ≤ result))) := by
  have failing : ¬ 0 ≤ -eio := by decide
  rcases reported with ⟨success, stored⟩ | ⟨failure, stored | stored⟩
  · rw [success, decide_eq_true (Int.natCast_nonneg size), stored]
    exact put_self within before
  · rw [failure, decide_eq_false failing, stored]
    exact Or.inl rfl
  · rw [failure, decide_eq_false failing, stored]
    exact Or.inr (put_self within before)

theorem Reported.of_ne {setting other : EcSetting} {bits : U8}
    {before after : Ram} {success result : Int}
    (reported : setting.Reported bits before after success result)
    (different : other ≠ setting) :
    after other.register = before other.register := by
  rcases reported with ⟨-, stored⟩ | ⟨-, stored | stored⟩
  · rw [stored, put_of_ne different]
  · rw [stored]
  · rw [stored, put_of_ne different]

theorem remembered_bitStore (other : ChargingSetting)
    {set : U8 → Driver Int} {machine : Machine σ}
    (kept : ∀ value,
      other.remembered (device.run (set value) machine).2.1 =
        other.remembered machine.1)
    (buffer : String) (size : Nat) :
    other.remembered
        (device.run (bitStore set buffer size) machine).2.1 =
      other.remembered machine.1 := by
  cases asks : bitAsked buffer with
  | none => rw [bitStore_refused asks, run_pure]
  | some value =>
      rw [bitStore_asked asks, run_bind, run_ite, run_pure, run_pure]
      split
      · exact kept value
      · exact kept value

/-- Only the stores of a charging setting change what is remembered of it. -/
theorem remembered_store_of_ne {setting : EcSetting}
    {other : ChargingSetting} (different : .charging other ≠ setting)
    (buffer : String) (size : Nat) (machine : Machine σ) :
    other.remembered
        (device.run (setting.store buffer size) machine).2.1 =
      other.remembered machine.1 := by
  cases setting with
  | charging setting =>
      have apart : other ≠ setting :=
        fun same => different (congrArg charging same)
      exact
        congrArg Prod.snd
          (ChargingSetting.known_store_of_ne device machine apart buffer size)
  | acAutoBoot =>
      refine remembered_bitStore other (fun value => ?_) buffer size
      unfold uwSetAcAutoBoot
      rw [statics_updateChecked]
      split
      · cases other <;> rfl
      · rfl
  | usbPowershare =>
      refine remembered_bitStore other (fun value => ?_) buffer size
      unfold uwSetUsbPowershare
      rw [statics_updateChecked]
      split
      · cases other <;> rfl
      · rfl
  | fnLock =>
      simp only [store]
      cases asks : onAsked buffer with
      | none => rw [uniwillFnLockStore_refused asks, run_pure]
      | some on =>
          have kept :
              (device.run (uniwillWmiFnLockSet on) machine).2.1 =
                machine.1 := by
            unfold uniwillWmiFnLockSet
            rw [statics_updateChecked]
            exact ite_self _
          rw [uniwillFnLockStore_asked asks, run_bind, run_ite, run_pure,
            run_pure]
          split
          · exact congrArg other.remembered kept
          · exact congrArg other.remembered kept

/-- A store of a charging setting that succeeds is remembered. -/
theorem remembered_store {setting : ChargingSetting} {buffer : String}
    {bits : U8} (asks : (charging setting).asked buffer = some bits)
    (size : Nat) (machine : Machine σ) :
    let reached := device.run (setting.store buffer size) machine
    Tried
      (BitVec.shiftLeft (setting.remembered machine.1) setting.shift)
      (BitVec.shiftLeft (setting.remembered reached.2.1) setting.shift)
      (some (bits, decide (0 ≤ reached.1))) := by
  obtain ⟨option, named, isBits⟩ := Option.map_eq_some_iff.mp asks
  by_cases success : 0 ≤ (device.run (setting.store buffer size) machine).1
  · have stored := ChargingSetting.known_store_self device machine setting
      named success
    have remembered := congrArg Prod.snd stored
    simp only [ChargingSetting.known] at remembered
    simp only [remembered, decide_eq_true success]
    exact isBits
  · have kept := ChargingSetting.statics_store device machine setting buffer
      size
    rw [if_neg success] at kept
    simp only [kept, decide_eq_false success]
    exact Or.inl rfl

end EcSetting

section Steps

variable (truthful : Truthful device ram) {run : SettingRun σ}

include truthful

theorem SettingRun.Holds.store (holds : run.Holds ram) (setting : EcSetting)
    (buffer : String) (size : Nat) :
    (settingStep device (.store setting buffer size) run).Holds ram := by
  cases asks : setting.asked buffer with
  | none =>
      have refused :
          device.run (setting.store buffer size) run.machine =
            (-einval, run.machine) :=
        EcSetting.run_store_refused run.machine asks size
      have unchanged :
          settingStep device (.store setting buffer size) run = run := by
        simp only [settingStep, refused, asks, Option.map_none, knownAfter,
          Function.update_eq_self]
      rw [unchanged]
      exact holds
  | some bits =>
      have reported :=
        EcSetting.reported_asked run.machine truthful asks size
      have within := EcSetting.asked_within asks
      simp only [settingStep, asks, Option.map_some]
      constructor
      · intro other
        dsimp only
        by_cases same : other = setting
        · subst same
          rw [Function.update_self]
          exact (holds.inRam other).knownAfter (reported.tried within)
        · rw [Function.update_of_ne same, reported.of_ne same]
          exact holds.inRam other
      · intro other
        dsimp only
        by_cases same : .charging other = setting
        · subst same
          rw [Function.update_self]
          exact
            (holds.remembered other).knownAfter
              (EcSetting.remembered_store asks size run.machine)
        · rw [Function.update_of_ne same,
            EcSetting.remembered_store_of_ne same]
          exact holds.remembered other

/-- A restore puts what is remembered, or does nothing. -/
theorem ram_writeState (setting : ChargingSetting) (machine : Machine σ) :
    let after := ram (device.run setting.writeState machine).2.2
    after = ram machine.2 ∨
      after =
        (EcSetting.charging setting).put
          (BitVec.shiftLeft (setting.remembered machine.1) setting.shift)
          (ram machine.2) := by
  have reported :=
    EcSetting.reported_chargingSet machine truthful setting
      (setting.remembered_low machine.1)
  rw [ChargingSetting.run_writeState]
  split
  · rcases reported with ⟨-, stored⟩ | ⟨-, storedOrNot⟩
    · exact Or.inr stored
    · exact storedOrNot
  · exact Or.inl rfl

omit truthful in
theorem remembered_within (setting : ChargingSetting)
    (statics : DriverState) :
    BitVec.shiftLeft (setting.remembered statics) setting.shift &&&
      ~~~setting.mask = 0 := by
  have shifted : ∀ value : U8, value &&& setting.low = value →
      BitVec.shiftLeft value setting.shift &&& ~~~setting.mask = 0 := by
    cases setting <;> decide
  exact shifted _ (setting.remembered_low statics)

/-- A restore puts back what is known, whatever comes of its access. -/
theorem SettingRun.Holds.restore (holds : run.Holds ram)
    (setting : ChargingSetting) :
    (settingStep device (.restore setting) run).Holds ram := by
  have statics (other : ChargingSetting) :
      other.remembered
          (device.run setting.writeState run.machine).2.1 =
        other.remembered run.machine.1 :=
    congrArg Prod.snd
      (ChargingSetting.known_writeState device run.machine setting other)
  have written := ram_writeState truthful setting run.machine
  constructor
  · intro other
    simp only [settingStep]
    by_cases same : other = .charging setting
    · subst same
      refine
        (holds.inRam _).replaced (holds.remembered setting)
          (written.imp (fun unchanged => ?_) fun stored => ?_)
      · rw [unchanged]
      · rw [stored]
        exact EcSetting.put_self (remembered_within setting _) _
    · have unchanged :
          ram (device.run setting.writeState run.machine).2.2
              other.register =
            ram run.machine.2 other.register := by
        rcases written with unchanged | stored
        · rw [unchanged]
        · rw [stored, EcSetting.put_of_ne same]
      rw [unchanged]
      exact holds.inRam other
  · intro other
    simp only [settingStep, statics]
    exact holds.remembered other

theorem SettingRun.Holds.step (holds : run.Holds ram) (step : SettingStep) :
    (settingStep device step run).Holds ram := by
  cases step with
  | store setting buffer size =>
      exact holds.store truthful setting buffer size
  | display setting =>
      obtain ⟨-, statics, unchanged⟩ :=
        EcSetting.displayed_display truthful run.machine setting
      constructor
      · intro other
        simp only [settingStep, unchanged]
        exact holds.inRam other
      · intro other
        simp only [settingStep, statics]
        exact holds.remembered other
  | restore setting => exact holds.restore truthful setting

/-- Bits that belong to no setting are never changed. -/
theorem unowned_step {address : U16} {bits : U8}
    (unowned : ∀ setting : EcSetting, setting.register = address →
      bits &&& setting.mask = 0)
    (step : SettingStep) (run : SettingRun σ) :
    ram (settingStep device step run).machine.2 address &&& bits =
      ram run.machine.2 address &&& bits := by
  cases step with
  | store setting buffer size =>
      cases asks : setting.asked buffer with
      | none =>
          have refused :
              device.run (setting.store buffer size) run.machine =
                (-einval, run.machine) :=
            EcSetting.run_store_refused run.machine asks size
          simp only [settingStep, refused]
      | some value =>
          have within := EcSetting.asked_within asks
          have reported :=
            EcSetting.reported_asked run.machine truthful asks size
          simp only [settingStep]
          rcases reported with ⟨-, stored⟩ | ⟨-, stored | stored⟩
          · rw [stored, EcSetting.put_unowned within (unowned setting)]
          · rw [stored]
          · rw [stored, EcSetting.put_unowned within (unowned setting)]
  | display setting =>
      obtain ⟨-, -, unchanged⟩ :=
        EcSetting.displayed_display truthful run.machine setting
      simp only [settingStep, unchanged]
  | restore setting =>
      simp only [settingStep]
      rcases ram_writeState truthful setting run.machine with stored | stored
      · rw [stored]
      · rw [stored,
          EcSetting.put_unowned (remembered_within setting _) (unowned _)]

end Steps

/-- Over any stores, shows and restores, whatever accesses fail: what the
results tell of a setting is in the RAM, a show that succeeds prints a text
that asks for it, and bits of no setting stay as they are. -/
theorem known_settings (truthful : Truthful device ram)
    (machine : Machine σ) (steps : List SettingStep) :
    let reached := runSteps (settingStep device) steps ⟨machine, fun _ => none⟩
    (∀ setting bits, reached.known setting = some bits →
      ram reached.machine.2 setting.register &&& setting.mask = bits ∧
        ∀ printed,
          (device.run setting.display reached.machine).1 = .ok printed →
            setting.asked printed = some bits) ∧
      ∀ address bits,
        (∀ setting : EcSetting, setting.register = address →
          bits &&& setting.mask = 0) →
        ram reached.machine.2 address &&& bits =
          ram machine.2 address &&& bits := by
  intro reached
  have initially : (SettingRun.mk machine fun _ => none).Holds ram :=
    ⟨fun _ => fits_none _, fun _ => fits_none _⟩
  have holds : reached.Holds ram :=
    runSteps_preserves (settingStep device) (SettingRun.Holds ram)
      (fun step _ holds => holds.step truthful step) steps initially
  constructor
  · intro setting bits isKnown
    have inRam := holds.inRam setting bits isKnown
    refine ⟨inRam, fun printed shows => ?_⟩
    obtain ⟨shown | failed, -⟩ :=
      EcSetting.displayed_display truthful reached.machine setting
    · have printedText :=
        EcSetting.asked_text (shown.symm.trans shows)
      rw [printedText, inRam]
    · rw [failed] at shows
      cases shows
  · intro address bits unowned
    exact
      runSteps_preserves (settingStep device)
        (fun run =>
          ram run.machine.2 address &&& bits = ram machine.2 address &&& bits)
        (fun step run unchanged =>
          (unowned_step truthful unowned step run).trans unchanged)
        steps rfl

end Runs

/-- An EC whose writes all take effect, although it fails the accesses that
the list says; after them every access succeeds. -/
def flakyEc : EcDevice (Ram × List Bool) where
  read address state :=
    (if state.2.headD true = true then .ok (state.1 address) else .fail 0xff,
      (state.1, state.2.tail))
  write address data state :=
    (if state.2.headD true = true then .ok else .fail,
      (Function.update state.1 address data, state.2.tail))

theorem flakyEc_truthful : Truthful flakyEc Prod.fst where
  keeps _ _ := rfl
  shows address state data read := by
    simp only [flakyEc] at read
    split at read
    · cases read
      rfl
    · cases read
  stores _ _ _ _ := rfl
  storesOrNot _ _ _ := Or.inr rfl

/-- USB powershare is known after its store, whatever happens to the other
settings; the priority is not, as its store failed. -/
theorem known_settings_usbPowershare :
    let steps : List SettingStep :=
      [ .store .usbPowershare "1\n" 2,
        .store (.charging .priority) "performance\n" 12,
        .restore .priority, .store .usbPowershare "2\n" 2 ]
    let reached :=
      runSteps (settingStep flakyEc) steps
        ⟨({}, fun _ => 0x41, [true, true, true, false]), fun _ => none⟩
    reached.known (.charging .priority) = none ∧
      reached.machine.2.1 0x0767 &&& 0x10 = 0x10 := by
  intro steps reached
  have known :=
    (known_settings flakyEc_truthful
      ({}, fun _ => 0x41, [true, true, true, false]) steps).1
  exact
    ⟨by decide +kernel, (known .usbPowershare 0x10 (by decide +kernel)).1⟩

end TuxedoDrivers.Uniwill
