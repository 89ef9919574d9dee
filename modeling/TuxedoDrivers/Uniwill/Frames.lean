import TuxedoDrivers.Uniwill.FanRequests
import TuxedoDrivers.Uniwill.PowerStates

/-!
# What the operations leave alone

For each operation of the event callback and of the platform driver, the EC
registers it can write and the static variables it can assign, whatever the
EC answers.  What is outside is unchanged by any run of the operation.
-/

namespace TuxedoDrivers.Uniwill

open Interaction

/-! ## Confined operations -/

/-- Any read, writes of registers in a set, and assignments that a view of
the variables does not show. -/
def Confined {β : Type} (registers : U16 → Prop) (view : DriverState → β) :
    UniwillRequest → Prop
  | .readEcRam _ => True
  | .writeEcRam address _ => registers address
  | .statics update => ∀ statics, view (update statics) = view statics

section Confined

variable {α β γ σ : Type} {registers wider : U16 → Prop}
  {view : DriverState → β} {narrower : DriverState → γ}
  {program : Driver α}

theorem confined_mono
    (asks : program.Asks (Confined registers view))
    (within : ∀ address, registers address → wider address)
    (determines : ∀ first second, view first = view second →
      narrower first = narrower second) :
    program.Asks (Confined wider narrower) := by
  refine asks.mono ?_
  intro request permitted
  cases request with
  | readEcRam address =>
      trivial
  | writeEcRam address data =>
      exact within address permitted
  | statics update =>
      exact fun statics => determines _ _ (permitted statics)

theorem confined_of_ecRequests {allowed : U16 → U8 → Prop}
    (asks : program.Asks (EcRequest allowed))
    (within : ∀ address data, allowed address data → registers address) :
    program.Asks (Confined registers view) := by
  refine asks.mono ?_
  intro request permitted
  cases request with
  | readEcRam address =>
      trivial
  | writeEcRam address data =>
      exact within address data permitted
  | statics update =>
      exact permitted.elim

theorem confined_of_accessWithin
    (asks : program.Asks (AccessWithin registers)) :
    program.Asks (Confined registers view) := by
  refine asks.mono ?_
  intro request permitted
  cases request with
  | readEcRam address =>
      trivial
  | writeEcRam address data =>
      exact permitted
  | statics update =>
      exact permitted.elim

theorem confined_of_loadRequests
    (asks : program.Asks (LoadRequest view)) :
    program.Asks (Confined registers view) := by
  refine asks.mono ?_
  intro request permitted
  cases request with
  | readEcRam address =>
      trivial
  | writeEcRam address data =>
      exact permitted.elim
  | statics update =>
      exact permitted

/-- What the view shows of the variables stays as it is. -/
theorem view_of_confined
    (asks : program.Asks (Confined registers view)) (device : EcDevice σ)
    (machine : Machine σ) :
    view (device.run program machine).2.1 = view machine.1 := by
  refine
    asks.run_preserves device.environment
      (fun later : Machine σ => view later.1 = view machine.1) ?_ rfl
  intro request later permitted kept
  cases request with
  | readEcRam address =>
      exact kept
  | writeEcRam address data =>
      exact kept
  | statics update =>
      exact (permitted later.1).trans kept

/-- A register outside the set keeps its content. -/
theorem ram_of_confined
    (asks : program.Asks (Confined registers view)) (machine : Machine Ram)
    {address : U16} (outside : ¬ registers address) :
    (reliableEc.run program machine).2.2 address = machine.2 address := by
  refine
    asks.run_preserves reliableEc.environment
      (fun later : Machine Ram =>
        later.2 address = machine.2 address) ?_ rfl
  intro request later permitted kept
  cases request with
  | readEcRam read =>
      exact kept
  | writeEcRam written data =>
      have distinct : address ≠ written := by
        rintro rfl
        exact outside permitted
      exact (Function.update_of_ne distinct data later.2).trans kept
  | statics update =>
      exact kept

theorem getStatics_confined : getStatics.Asks (Confined registers view) :=
  ⟨fun _ => rfl, fun _ => trivial⟩

theorem setStatics_confined {update : DriverState → DriverState}
    (hidden : ∀ statics, view (update statics) = view statics) :
    (setStatics update).Asks (Confined registers view) :=
  ⟨hidden, fun _ => trivial⟩

theorem uniwillReadEcRam_confined (address : U16) :
    (uniwillReadEcRam address).Asks (Confined registers view) :=
  ⟨trivial, fun _ => trivial⟩

theorem uniwillWriteEcRam_confined {address : U16}
    (within : registers address) (data : U8) :
    (uniwillWriteEcRam address data).Asks (Confined registers view) :=
  ⟨within, fun _ => trivial⟩

theorem updateUnchecked_confined {address : U16}
    (within : registers address) (update : U8 → U8) :
    (updateUnchecked address update).Asks (Confined registers view) :=
  (uniwillReadEcRam_confined address).bind fun _ =>
    uniwillWriteEcRam_confined within _

theorem updateChecked_confined {address : U16}
    (within : registers address) (update : U8 → U8)
    {written : DriverState → DriverState}
    (hidden : ∀ statics, view (written statics) = view statics) :
    (updateChecked address update written).Asks
      (Confined registers view) := by
  refine (uniwillReadEcRam_confined address).bind fun previous => ?_
  refine Program.Asks.ite (fun _ => trivial) fun _ => ?_
  refine (uniwillWriteEcRam_confined within _).bind fun result => ?_
  refine Program.Asks.ite (fun _ => ?_) fun _ => trivial
  exact (setStatics_confined hidden).bind fun _ => trivial

end Confined

/-! ## Custom profile mode and backlight -/

section Switches

variable {β : Type} {view : DriverState → β}

def CustomProfileRegister (address : U16) : Prop :=
  address = uwEcRegCustomProfile

theorem suspendCustomProfile_confined :
    suspendCustomProfile.Asks (Confined CustomProfileRegister view) := by
  refine getStatics_confined.bind fun statics => ?_
  refine Program.Asks.ite (fun _ => ?_) fun _ => trivial
  refine Program.Asks.bind ?_ fun _ => trivial
  apply updateUnchecked_confined
  rfl

theorem resumeCustomProfile_confined :
    resumeCustomProfile.Asks (Confined CustomProfileRegister view) := by
  refine getStatics_confined.bind fun statics => ?_
  refine Program.Asks.ite (fun _ => ?_) fun _ => trivial
  refine Program.Asks.bind ?_ fun _ => trivial
  apply updateUnchecked_confined
  rfl

theorem writeCustomProfileMode_confined (zeroBitInitially : Bool) :
    (writeCustomProfileMode zeroBitInitially).Asks
      (Confined CustomProfileRegister view) := by
  have write : ∀ data : U8,
      (uniwillWriteEcRam uwEcRegCustomProfile data).Asks
        (Confined CustomProfileRegister view) := by
    intro data
    apply uniwillWriteEcRam_confined
    rfl
  refine (uniwillReadEcRam_confined _).bind fun data => ?_
  refine Program.Asks.ite (fun _ => ?_) fun _ => ?_
  · refine (write _).bind fun _ => ?_
    exact (write _).bind fun _ => trivial
  · exact (write _).bind fun _ => trivial

/-- The variables other than the features stay as they are. -/
theorem uniwillSetCustomProfileMode_confined
    (dmi : Dmi) (zeroBitInitially : Bool) :
    (uniwillSetCustomProfileMode dmi zeroBitInitially).Asks
      (Confined CustomProfileRegister otherStatics) := by
  refine Program.Asks.bind ?_ fun features => ?_
  · exact confined_of_loadRequests (uniwillGetDeviceFeatures_asks dmi)
  · refine Program.Asks.ite (fun _ => ?_) fun _ => trivial
    exact writeCustomProfileMode_confined zeroBitInitially

/-- The registers of the keyboard backlight. -/
def BacklightRegister (address : U16) : Prop :=
  address ∈
    [ uwEcRegKbdBlStatus, uwEcRegKbdBlRgbBlueBrightnessImmediate,
      uwEcRegKbdBlRgbMode, uwEcRegKbdBlRgbRedBrightness,
      uwEcRegKbdBlRgbGreenBrightness, uwEcRegKbdBlRgbBlueBrightness ]

instance (address : U16) : Decidable (BacklightRegister address) :=
  inferInstanceAs (Decidable (address ∈ _))

theorem uniwillWriteKbdBlEnable_confined (enable : U8) :
    (uniwillWriteKbdBlEnable enable).Asks
      (Confined BacklightRegister view) := by
  refine Program.Asks.bind ?_ fun _ => trivial
  apply updateUnchecked_confined
  decide

theorem uniwillWriteKbdBlBrightness_confined (brightness : U8) :
    (uniwillWriteKbdBlBrightness brightness).Asks
      (Confined BacklightRegister view) := by
  apply updateChecked_confined
  · decide
  · exact fun _ => rfl

theorem uniwillWriteKbdBlBrightnessWhiteWorkaround_confined
    (brightness : U8) :
    (uniwillWriteKbdBlBrightnessWhiteWorkaround brightness).Asks
      (Confined BacklightRegister view) := by
  have brighten :
      (uniwillWriteKbdBlBrightness brightness).Asks
        (Confined BacklightRegister view) :=
    uniwillWriteKbdBlBrightness_confined brightness
  refine (uniwillReadEcRam_confined _).bind fun immediate => ?_
  refine Program.Asks.ite (fun _ => ?_) fun _ => brighten
  refine Program.Asks.bind ?_ fun _ => brighten
  apply uniwillWriteEcRam_confined
  decide

theorem uniwillWriteKbdBlColor_confined (red green blue : U8) :
    (uniwillWriteKbdBlColor red green blue).Asks
      (Confined BacklightRegister view) := by
  have write : ∀ {address : U16} (data : U8), BacklightRegister address →
      (uniwillWriteEcRam address data).Asks
        (Confined BacklightRegister view) :=
    fun data within => uniwillWriteEcRam_confined within data
  refine (write _ (by decide)).bind fun _ => ?_
  refine Program.Asks.ite (fun _ => trivial) fun _ => ?_
  refine (write _ (by decide)).bind fun _ => ?_
  refine Program.Asks.ite (fun _ => trivial) fun _ => ?_
  refine (write _ (by decide)).bind fun _ => ?_
  refine Program.Asks.ite (fun _ => trivial) fun _ => ?_
  apply updateChecked_confined
  · decide
  · exact fun _ => rfl

theorem uniwillLedsRestoreStateExtern_confined :
    uniwillLedsRestoreStateExtern.Asks
      (Confined BacklightRegister view) := by
  refine getStatics_confined.bind fun statics => ?_
  cases statics.leds.uniwillKbBacklightType with
  | none =>
      trivial
  | fixedColor =>
      exact
        (uniwillWriteKbdBlBrightnessWhiteWorkaround_confined _).bind
          fun _ => trivial
  | fixedColor5Levels =>
      exact
        (uniwillWriteKbdBlBrightnessWhiteWorkaround_confined _).bind
          fun _ => trivial
  | oneZoneRgb =>
      refine (uniwillWriteKbdBlColor_confined _ _ _).bind fun _ => ?_
      exact (uniwillWriteKbdBlBrightness_confined _).bind fun _ => trivial
  | perKeyRgb =>
      trivial

end Switches

/-! ## Charging settings -/

section Settings

def ChargingRegister (address : U16) : Prop :=
  address = 0x07cc ∨ address = 0x07a6

instance (address : U16) : Decidable (ChargingRegister address) :=
  inferInstanceAs (Decidable (_ ∨ _))

/-- The variables other than the remembered settings. -/
def beyondSettings (statics : DriverState) : DriverState :=
  { statics with settings := {} }

theorem uwChargingPriorityWriteState_confined :
    uwChargingPriorityWriteState.Asks
      (Confined ChargingRegister beyondSettings) := by
  refine getStatics_confined.bind fun statics => ?_
  refine Program.Asks.ite (fun _ => ?_) fun _ => trivial
  refine Program.Asks.bind ?_ fun _ => trivial
  unfold uwSetChargingPriority
  apply updateChecked_confined
  · decide
  · exact fun _ => rfl

theorem uwChargingProfileWriteState_confined :
    uwChargingProfileWriteState.Asks
      (Confined ChargingRegister beyondSettings) := by
  refine getStatics_confined.bind fun statics => ?_
  refine Program.Asks.ite (fun _ => ?_) fun _ => trivial
  refine Program.Asks.bind ?_ fun _ => trivial
  unfold uwSetChargingProfile
  apply updateChecked_confined
  · decide
  · exact fun _ => rfl

end Settings

/-! ## Fan control -/

section Fans

instance (address : U16) : Decidable (FanControlRegister address) :=
  inferInstanceAs (Decidable (_ ∨ _))

/-- The variables other than those of the fan control. -/
def beyondFans (statics : DriverState) : DriverState :=
  { statics with fan := {} }

private theorem fanControlRegister_of_fanSetupWrite
    (address : U16) (data : U8) (written : FanSetupWrite address data) :
    FanControlRegister address := by
  rcases written with rfl | rfl | rfl | ⟨lower, upper, -⟩
  · decide
  · decide
  · decide
  · exact Or.inr (Or.inr (Or.inr (Or.inl ⟨lower, upper⟩)))

theorem uwInitFan_confined :
    uwInitFan.Asks (Confined FanControlRegister beyondFans) := by
  have setup :
      uwInitFanSetup.Asks (Confined FanControlRegister beyondFans) :=
    confined_of_ecRequests uwInitFanSetup_asks
      fanControlRegister_of_fanSetupWrite
  have initialized :
      (setStatics fun statics =>
          { statics with fan.fansInitialized := true }).Asks
        (Confined FanControlRegister beyondFans) :=
    setStatics_confined fun _ => rfl
  refine getStatics_confined.bind fun statics => ?_
  refine Program.Asks.ite (fun _ => ?_) fun _ => ?_
  · exact setup.bind fun _ => initialized.bind fun _ => trivial
  · exact initialized.bind fun _ => trivial

theorem directFanControlApply_confined {address : U16}
    (within : FanControlRegister address) (fanSpeed : U8)
    (preventRampup : Bool) :
    (directFanControlApply address fanSpeed preventRampup).Asks
      (Confined FanControlRegister beyondFans) := by
  refine getStatics_confined.bind fun statics => ?_
  refine Program.Asks.ite (fun _ => ?_) fun _ => ?_
  · refine Program.Asks.bind (setStatics_confined fun _ => rfl) fun _ => ?_
    exact
      Program.Asks.bind (setStatics_confined fun _ => rfl) fun _ => trivial
  · exact (uniwillWriteEcRam_confined within _).bind fun _ => trivial

theorem directFanControl_confined (fanIndex : U32) (fanSpeed : U8)
    (preventRampup : Bool) :
    (directFanControl fanIndex fanSpeed preventRampup).Asks
      (Confined FanControlRegister beyondFans) := by
  refine Program.Asks.ite (fun _ => ?_) fun _ => ?_
  · refine Program.Asks.bind (setStatics_confined fun _ => rfl) fun _ => ?_
    exact directFanControlApply_confined (by decide) _ _
  · refine Program.Asks.ite (fun _ => ?_) fun _ => trivial
    refine Program.Asks.bind (setStatics_confined fun _ => rfl) fun _ => ?_
    exact directFanControlApply_confined (by decide) _ _

theorem uwSetFan_confined (fanIndex : U32) (fanSpeed : U8) :
    (uwSetFan fanIndex fanSpeed).Asks
      (Confined FanControlRegister beyondFans) := by
  have table : ∀ {address : U16}, FanControlRegister address →
      (uwSetFanTable fanIndex address fanSpeed).Asks
        (Confined FanControlRegister beyondFans) := by
    intro address within
    refine Program.Asks.ite (fun _ => trivial) fun _ => ?_
    refine (uniwillWriteEcRam_confined within _).bind fun _ => ?_
    exact (directFanControl_confined _ _ _).bind fun _ => trivial
  refine getStatics_confined.bind fun statics => ?_
  refine Program.Asks.ite (fun _ => ?_) fun _ => ?_
  · refine (uniwillReadEcRam_confined _).bind fun mode => ?_
    refine Program.Asks.ite (fun _ => ?_) fun _ => trivial
    refine uwInitFan_confined.bind fun _ => ?_
    refine Program.Asks.ite (fun _ => table (by decide)) fun _ => ?_
    exact
      Program.Asks.ite (fun _ => table (by decide)) fun _ => trivial
  · exact (directFanControl_confined _ _ _).bind fun _ => trivial

theorem uwSetFanAuto_confined :
    uwSetFanAuto.Asks (Confined FanControlRegister beyondFans) := by
  have disable : ∀ (table : U16) (offset : Nat), FanControlRegister table →
      (uwDisableCustomFanTable table offset).Asks
        (Confined FanControlRegister beyondFans) := by
    intro table offset within
    refine (uniwillReadEcRam_confined _).bind fun value => ?_
    have written : ∀ data : U8,
        (uniwillWriteEcRamWithRetry table data 3).Asks
          (EcRequest fun address _ => address = table) :=
      fun _ => asks_uniwillWriteEcRamWithRetry rfl 3
    refine Program.Asks.ite (fun _ => ?_) fun _ => trivial
    refine Program.Asks.bind ?_ fun _ => trivial
    refine confined_of_ecRequests (written _) ?_
    rintro _ _ rfl
    exact within
  refine getStatics_confined.bind fun statics => ?_
  have forgotten :
      (setStatics fun statics =>
          { statics with
            fan.directFanControlCurrentValueFan0 := 0
            fan.directFanControlCurrentValueFan1 := 0 }).Asks
        (Confined FanControlRegister beyondFans) :=
    setStatics_confined fun _ => rfl
  refine Program.Asks.ite (fun _ => ?_) fun _ => ?_
  · refine Program.Asks.bind ?_ fun _ =>
      forgotten.bind fun _ => trivial
    refine (disable _ _ (by decide)).bind fun _ => ?_
    refine (disable _ _ (by decide)).bind fun _ => ?_
    exact setStatics_confined fun _ => rfl
  · refine Program.Asks.bind ?_ fun _ =>
      forgotten.bind fun _ => trivial
    refine Program.Asks.bind (setStatics_confined fun _ => rfl) fun _ => ?_
    refine (uniwillReadEcRam_confined _).bind fun mode => ?_
    exact
      (uniwillWriteEcRam_confined (by decide) _).bind fun _ => trivial

theorem suspendFans_confined :
    suspendFans.Asks (Confined FanControlRegister beyondFans) := by
  refine getStatics_confined.bind fun statics => ?_
  refine Program.Asks.ite (fun _ => ?_) fun _ => trivial
  refine Program.Asks.bind (setStatics_confined fun _ => rfl) fun _ => ?_
  exact uwSetFanAuto_confined.bind fun _ => trivial

theorem resumeFans_confined :
    resumeFans.Asks (Confined FanControlRegister beyondFans) := by
  refine getStatics_confined.bind fun statics => ?_
  refine Program.Asks.ite (fun _ => ?_) fun _ => trivial
  refine Program.Asks.bind (setStatics_confined fun _ => rfl) fun _ => ?_
  refine (uwSetFan_confined _ _).bind fun _ => ?_
  refine getStatics_confined.bind fun statics => ?_
  exact (uwSetFan_confined _ _).bind fun _ => trivial

end Fans

end TuxedoDrivers.Uniwill
