import TuxedoDrivers.Interaction.Runs
import TuxedoDrivers.Sysfs
import TuxedoDrivers.Uniwill.Frames

/-!
# Charging settings

The sysfs files of the charging priority and the charging profile, and what
the driver remembers of them.  The firmware may reset both registers, and
the driver writes the remembered values again after a change of the DC
adapter and on resume.

Two histories are kept side by side: the static variables as the driver
assigns them, and what a user knows of the settings, which is the last value
stored with success, or the value read at initialisation.
-/

namespace TuxedoDrivers.Uniwill

open Interaction

/-! ## Reading and initialisation -/

/-- Status and `*charging_priority`; the byte is shifted even when the read
failed. -/
def uwGetChargingPriority : Driver (Int × U8) := do
  let reply ← uniwillReadEcRam 0x07cc
  return (reply.status, (reply.data >>> 7) &&& 0x01)

/-- Status and `*charging_profile`. -/
def uwGetChargingProfile : Driver (Int × U8) := do
  let reply ← uniwillReadEcRam 0x07a6
  if reply.status = 0 then
    return (reply.status, (reply.data >>> 4) &&& 0x03)
  else
    return (reply.status, reply.data)

theorem run_uwGetChargingProfile {σ : Type} (device : EcDevice σ)
    (machine : Machine σ) :
    device.run uwGetChargingProfile machine =
      (((device.read 0x07a6 machine.2).1.status,
          if (device.read 0x07a6 machine.2).1.status = 0 then
            ((device.read 0x07a6 machine.2).1.data >>> 4) &&& 0x03
          else (device.read 0x07a6 machine.2).1.data),
        machine.1, (device.read 0x07a6 machine.2).2) := by
  simp only [uwGetChargingProfile, run_bind, run_uniwillReadEcRam, run_ite,
    run_pure]
  split <;> rfl

/-- `created` is whether `sysfs_create_group` succeeds. -/
def uwChargingPriorityInit (created : Bool) : Driver Unit := do
  setStatics fun statics =>
    if statics.uniwillDeviceFeatures.uniwillHasChargingPrio = true then
      { statics with settings.uwChargingPrioLoaded := created }
    else statics
  let statics ← getStatics
  if statics.settings.uwChargingPrioLoaded = true then
    let reply ← uwGetChargingPriority
    setStatics fun statics =>
      { statics with
        settings.uwChargingPrioLastWrittenValue := decide (reply.2 ≠ 0) }
  else
    return ()

def uwChargingProfileInit (created : Bool) : Driver Unit := do
  setStatics fun statics =>
    if statics.uniwillDeviceFeatures.uniwillHasChargingProfile = true then
      { statics with settings.uwChargingProfileLoaded := created }
    else statics
  let statics ← getStatics
  if statics.settings.uwChargingProfileLoaded = true then
    let reply ← uwGetChargingProfile
    setStatics fun statics =>
      { statics with settings.uwChargingProfileLastWrittenValue := reply.2 }
  else
    return ()

/-! ## Stores -/

/-- `struct char_to_u8_t`. -/
structure CharToU8 where
  descriptor : String
  value : U8
  deriving DecidableEq, Repr

def chargingProfileOptions : List CharToU8 :=
  [⟨"high_capacity", 0x00⟩, ⟨"balanced", 0x01⟩, ⟨"stationary", 0x02⟩]

def chargingPrioOptions : List CharToU8 :=
  [⟨"charge_battery", 0x00⟩, ⟨"performance", 0x01⟩]

/-- The option that the buffer names. -/
def optionOf (options : List CharToU8) (buffer : String) :
    Option CharToU8 :=
  options.find? fun option => option.descriptor == strstrip buffer

/-- A store of an option; the result is a negative error or `size`. -/
def optionStore (options : List CharToU8) (set : U8 → Driver Int)
    (buffer : String) (size : Nat) : Driver Int :=
  match optionOf options buffer with
  | some option => do
      let result ← set option.value
      if result = 0 then
        return (size : Int)
      else
        return -eio
  | none => return -einval

def uwChargingProfileStore (buffer : String) (size : Nat) : Driver Int :=
  optionStore chargingProfileOptions uwSetChargingProfile buffer size

def uwChargingPrioStore (buffer : String) (size : Nat) : Driver Int :=
  optionStore chargingPrioOptions uwSetChargingPriority buffer size

/-! ## The two settings as a family -/

inductive ChargingSetting where
  | priority
  | profile
  deriving DecidableEq, Repr

namespace ChargingSetting

def register : ChargingSetting → U16
  | .priority => 0x07cc
  | .profile => 0x07a6

def mask : ChargingSetting → U8
  | .priority => 0x80
  | .profile => 0x30

def shift : ChargingSetting → Nat
  | .priority => 7
  | .profile => 4

/-- The setting that a register content shows. -/
def field (setting : ChargingSetting) (content : U8) : U8 :=
  (content &&& setting.mask) >>> setting.shift

/-- The register content with another setting. -/
def merge (setting : ChargingSetting) (content value : U8) : U8 :=
  (content &&& ~~~setting.mask) ||| (value <<< setting.shift)

def options : ChargingSetting → List CharToU8
  | .priority => chargingPrioOptions
  | .profile => chargingProfileOptions

def init : ChargingSetting → Bool → Driver Unit
  | .priority => uwChargingPriorityInit
  | .profile => uwChargingProfileInit

def set : ChargingSetting → U8 → Driver Int
  | .priority => uwSetChargingPriority
  | .profile => uwSetChargingProfile

def store : ChargingSetting → String → Nat → Driver Int
  | .priority => uwChargingPrioStore
  | .profile => uwChargingProfileStore

def writeState : ChargingSetting → Driver Unit
  | .priority => uwChargingPriorityWriteState
  | .profile => uwChargingProfileWriteState

def loaded : ChargingSetting → DriverState → Bool
  | .priority, statics => statics.settings.uwChargingPrioLoaded
  | .profile, statics => statics.settings.uwChargingProfileLoaded

/-- The value that the driver would restore. -/
def remembered : ChargingSetting → DriverState → U8
  | .priority, statics =>
      if statics.settings.uwChargingPrioLastWrittenValue then 1 else 0
  | .profile, statics =>
      statics.settings.uwChargingProfileLastWrittenValue &&& 0x03

theorem store_eq (setting : ChargingSetting) :
    setting.store = optionStore setting.options setting.set := by
  cases setting <;> rfl

/-- The values of the setting. -/
def low : ChargingSetting → U8
  | .priority => 0x01
  | .profile => 0x03

/-- What a successful set assigns. -/
def remember : ChargingSetting → U8 → DriverState → DriverState
  | .priority, value, statics =>
      { statics with
        settings.uwChargingPrioLastWrittenValue :=
          decide ((value &&& 0x01) <<< 7 ≠ 0) }
  | .profile, value, statics =>
      { statics with
        settings.uwChargingProfileLastWrittenValue := value &&& 0x03 }

theorem field_merge (setting : ChargingSetting) (content value : U8) :
    setting.field (setting.merge content (value &&& setting.low)) =
      value &&& setting.low := by
  have shown : ∀ bits : U8,
      (bits &&& setting.low) <<< setting.shift &&& setting.mask =
        (bits &&& setting.low) <<< setting.shift ∧
      (bits &&& setting.low) <<< setting.shift >>> setting.shift =
        bits &&& setting.low := by
    cases setting <;> decide
  have others : content &&& ~~~setting.mask &&& setting.mask = 0 := by
    rw [BitVec.and_assoc, BitVec.and_comm (~~~setting.mask),
      BitVec.and_not_self]
    exact BitVec.and_zero
  have joined : ∀ bits : U8, 0 ||| bits = bits :=
    fun _ => BitVec.zero_or
  rw [field, merge, BitVec.and_or_distrib_right, others, (shown value).1,
    joined]
  exact (shown value).2

theorem merge_others (setting : ChargingSetting) (content value : U8) :
    setting.merge content (value &&& setting.low) &&& ~~~setting.mask =
      content &&& ~~~setting.mask := by
  have shown : ∀ bits : U8,
      (bits &&& setting.low) <<< setting.shift &&& ~~~setting.mask = 0 := by
    cases setting <;> decide
  rw [merge, BitVec.and_or_distrib_right, shown, BitVec.and_assoc,
    BitVec.and_self]
  exact BitVec.or_zero

theorem remembered_low (setting : ChargingSetting) (statics : DriverState) :
    setting.remembered statics &&& setting.low =
      setting.remembered statics := by
  cases setting with
  | priority =>
      rw [remembered]
      split <;> rfl
  | profile =>
      rw [remembered, low, BitVec.and_assoc, BitVec.and_self]

theorem loaded_remember (setting other : ChargingSetting) (value : U8)
    (statics : DriverState) :
    other.loaded (setting.remember value statics) = other.loaded statics := by
  cases setting <;> cases other <;> rfl

theorem remembered_remember_self (setting : ChargingSetting) (value : U8)
    (statics : DriverState) :
    setting.remembered (setting.remember value statics) =
      value &&& setting.low := by
  cases setting with
  | priority =>
      have shifted : ∀ bits : U8,
          (if decide ((bits &&& 0x01) <<< 7 ≠ 0) then (1 : U8) else 0) =
            bits &&& 0x01 := by
        decide
      exact shifted value
  | profile =>
      rw [remembered, remember, low, BitVec.and_assoc, BitVec.and_self]

theorem remembered_remember_of_ne {setting other : ChargingSetting}
    (different : other ≠ setting) (value : U8) (statics : DriverState) :
    other.remembered (setting.remember value statics) =
      other.remembered statics := by
  cases setting <;> cases other <;> first | rfl | exact absurd rfl different

/-- What the driver knows of a setting. -/
def known (setting : ChargingSetting) (statics : DriverState) : Bool × U8 :=
  (setting.loaded statics, setting.remembered statics)

/-- A named option is a value of the setting. -/
theorem optionOf_low {setting : ChargingSetting} {buffer : String}
    {option : CharToU8}
    (named : optionOf setting.options buffer = some option) :
    option.value &&& setting.low = option.value := by
  have fits : ∀ option ∈ setting.options,
      option.value &&& setting.low = option.value := by
    cases setting <;> decide
  exact fits option (List.mem_of_find?_eq_some named)

/-! ## One operation -/

section Rules

variable {σ : Type} (device : EcDevice σ) (machine : Machine σ)

/-- A set assigns exactly when it succeeds. -/
theorem statics_set (setting : ChargingSetting) (value : U8) :
    (device.run (setting.set value) machine).2.1 =
      if (device.run (setting.set value) machine).1 = 0 then
        setting.remember value machine.1
      else machine.1 := by
  cases setting with
  | priority =>
      unfold set uwSetChargingPriority
      rw [statics_updateChecked]
      rfl
  | profile =>
      unfold set uwSetChargingProfile
      rw [statics_updateChecked]
      rfl

/-- A store that succeeds remembers the option that the buffer names, and one
that fails changes no variable. -/
theorem statics_store (setting : ChargingSetting) (buffer : String)
    (size : Nat) :
    (device.run (setting.store buffer size) machine).2.1 =
      if 0 ≤ (device.run (setting.store buffer size) machine).1 then
        match optionOf setting.options buffer with
        | some option => setting.remember option.value machine.1
        | none => machine.1
      else machine.1 := by
  rw [store_eq]
  unfold optionStore
  rcases named : optionOf setting.options buffer with _ | option
  · simp
  · have assigned := statics_set device machine setting option.value
    simp only [run_bind, run_ite, run_pure]
    by_cases success :
        (device.run (setting.set option.value) machine).1 = 0
    · rw [if_pos success] at assigned
      simp [success, assigned]
    · rw [if_neg success] at assigned
      simp [success, assigned, eio]

theorem known_store_self (setting : ChargingSetting) {buffer : String}
    {size : Nat} {option : CharToU8}
    (named : optionOf setting.options buffer = some option)
    (success : 0 ≤ (device.run (setting.store buffer size) machine).1) :
    setting.known (device.run (setting.store buffer size) machine).2.1 =
      (setting.loaded machine.1, option.value) := by
  rw [statics_store, if_pos success, named, known, loaded_remember,
    remembered_remember_self, optionOf_low named]

theorem known_store_of_ne {setting other : ChargingSetting}
    (different : other ≠ setting) (buffer : String) (size : Nat) :
    other.known (device.run (setting.store buffer size) machine).2.1 =
      other.known machine.1 := by
  rw [statics_store]
  split
  · split
    · rw [known, known, loaded_remember,
        remembered_remember_of_ne different]
    · rfl
  · rfl

theorem set_low (setting : ChargingSetting) (value : U8) :
    setting.set (value &&& setting.low) = setting.set value := by
  cases setting with
  | priority =>
      simp only [set, low, uwSetChargingPriority, BitVec.and_assoc,
        BitVec.and_self]
  | profile =>
      simp only [set, low, uwSetChargingProfile, BitVec.and_assoc,
        BitVec.and_self]

theorem run_writeState (setting : ChargingSetting) :
    (device.run setting.writeState machine).2 =
      if setting.loaded machine.1 = true then
        (device.run (setting.set (setting.remembered machine.1)) machine).2
      else machine := by
  cases setting with
  | priority =>
      simp only [writeState, uwChargingPriorityWriteState, loaded, set,
        remembered, run_bind, run_getStatics, run_ite, run_pure]
      exact apply_ite Prod.snd _ _ _
  | profile =>
      have masked :=
        set_low .profile
          machine.1.settings.uwChargingProfileLastWrittenValue
      unfold set low at masked
      simp only [writeState, uwChargingProfileWriteState, loaded, set,
        remembered, run_bind, run_getStatics, run_ite, run_pure, masked]
      exact apply_ite Prod.snd _ _ _

/-- To remember what is remembered changes nothing. -/
theorem known_remember_remembered (setting other : ChargingSetting)
    (statics : DriverState) :
    other.known (setting.remember (setting.remembered statics) statics) =
      other.known statics := by
  rw [known, known, loaded_remember]
  by_cases same : other = setting
  · rw [same, remembered_remember_self, remembered_low]
  · rw [remembered_remember_of_ne same]

theorem known_writeState (setting other : ChargingSetting) :
    other.known (device.run setting.writeState machine).2.1 =
      other.known machine.1 := by
  rw [run_writeState]
  split
  · rw [statics_set]
    split
    · exact known_remember_remembered setting other machine.1
    · rfl
  · rfl

theorem known_of_settings {first second : DriverState}
    (same : first.settings = second.settings)
    (setting : ChargingSetting) :
    setting.known first = setting.known second := by
  cases setting <;> simp only [known, loaded, remembered, same]

/-- The value that a read at initialisation yields, if there is one. -/
def readAtInit (setting : ChargingSetting) (statics : DriverState) :
    EcRead → Option U8
  | .ok data =>
      if setting.loaded statics = true then some (setting.field data)
      else none
  | .fail _ => none

/-- The variables once the sysfs files are there. -/
def attach : ChargingSetting → Bool → DriverState → DriverState
  | .priority, created, statics =>
      if statics.uniwillDeviceFeatures.uniwillHasChargingPrio = true then
        { statics with settings.uwChargingPrioLoaded := created }
      else statics
  | .profile, created, statics =>
      if statics.uniwillDeviceFeatures.uniwillHasChargingProfile = true then
        { statics with settings.uwChargingProfileLoaded := created }
      else statics

/-- The variables after the read for the initial state. -/
def assign : ChargingSetting → EcRead → DriverState → DriverState
  | .priority, reply, statics =>
      { statics with
        settings.uwChargingPrioLastWrittenValue :=
          decide ((reply.data >>> 7) &&& 0x01 ≠ 0) }
  | .profile, reply, statics =>
      { statics with
        settings.uwChargingProfileLastWrittenValue :=
          if reply.status = 0 then (reply.data >>> 4) &&& 0x03
          else reply.data }

theorem statics_init (setting : ChargingSetting) (created : Bool) :
    (device.run (setting.init created) machine).2.1 =
      if setting.loaded (setting.attach created machine.1) = true then
        setting.assign (device.read setting.register machine.2).1
          (setting.attach created machine.1)
      else setting.attach created machine.1 := by
  cases setting with
  | priority =>
      simp only [init, uwChargingPriorityInit, uwGetChargingPriority,
        run_bind, run_setStatics, run_getStatics, run_ite,
        run_uniwillReadEcRam, run_pure]
      exact
        apply_ite (fun reached : Unit × Machine σ => reached.2.1) _ _ _
  | profile =>
      simp only [init, uwChargingProfileInit, run_uwGetChargingProfile,
        run_bind, run_setStatics, run_getStatics, run_ite, run_pure]
      exact
        apply_ite (fun reached : Unit × Machine σ => reached.2.1) _ _ _

theorem known_attach_of_ne {setting other : ChargingSetting}
    (different : other ≠ setting) (created : Bool) (statics : DriverState) :
    other.known (setting.attach created statics) = other.known statics := by
  cases setting <;> cases other
  · exact absurd rfl different
  · simp only [attach]
    split <;> rfl
  · simp only [attach]
    split <;> rfl
  · exact absurd rfl different

theorem known_assign_of_ne {setting other : ChargingSetting}
    (different : other ≠ setting) (reply : EcRead) (statics : DriverState) :
    other.known (setting.assign reply statics) = other.known statics := by
  cases setting <;> cases other <;> first | rfl | exact absurd rfl different

theorem known_assign_self (setting : ChargingSetting) (data : U8)
    (statics : DriverState) :
    setting.known (setting.assign (.ok data) statics) =
      (setting.loaded statics, setting.field data) := by
  cases setting with
  | priority =>
      have shown : ∀ bits : U8,
          (if decide ((bits >>> 7) &&& 0x01 ≠ 0) = true then (1 : U8)
            else 0) =
            (bits &&& 0x80) >>> 7 := by
        decide
      exact congrArg (Prod.mk _) (shown data)
  | profile =>
      have shown : ∀ bits : U8,
          (bits >>> 4) &&& 0x03 &&& 0x03 = (bits &&& 0x30) >>> 4 := by
        decide
      exact congrArg (Prod.mk _) (shown data)

/-- Initialisation remembers what it reads. -/
theorem known_init_self (setting : ChargingSetting) (created : Bool)
    {value : U8}
    (reads :
      setting.readAtInit (device.run (setting.init created) machine).2.1
          (device.read setting.register machine.2).1 = some value) :
    setting.known (device.run (setting.init created) machine).2.1 =
      (true, value) := by
  rcases reply : (device.read setting.register machine.2).1 with data | left
  · rw [statics_init, reply] at reads ⊢
    by_cases isLoaded :
        setting.loaded (setting.attach created machine.1) = true
    · rw [if_pos isLoaded, known_assign_self, isLoaded]
      rw [if_pos isLoaded, readAtInit] at reads
      split at reads
      · rw [Option.some.inj reads]
      · cases reads
    · rw [if_neg isLoaded, readAtInit, if_neg isLoaded] at reads
      cases reads
  · rw [reply] at reads
    cases reads

theorem known_init_of_ne {setting other : ChargingSetting}
    (different : other ≠ setting) (created : Bool) :
    other.known (device.run (setting.init created) machine).2.1 =
      other.known machine.1 := by
  rw [statics_init]
  split
  · rw [known_assign_of_ne different, known_attach_of_ne different]
  · rw [known_attach_of_ne different]

end Rules

/-! ## Restores on an EC whose accesses succeed -/

section Restores

variable (machine : Machine Ram)

theorem run_set_reliable (setting : ChargingSetting) (value : U8) :
    (reliableEc.run (setting.set value) machine).2.2 =
      Function.update machine.2 setting.register
        (setting.merge (machine.2 setting.register)
          (value &&& setting.low)) := by
  cases setting with
  | priority =>
      simp only [set, uwSetChargingPriority, updateChecked, run_bind,
        run_uniwillReadEcRam, reliableEc_read, EcRead.status_ok, ne_eq,
        not_true_eq_false, if_false, run_uniwillWriteEcRam,
        reliableEc_write, EcWrite.status_ok, if_true, run_setStatics,
        run_pure]
      rfl
  | profile =>
      simp only [set, uwSetChargingProfile, updateChecked, run_bind,
        run_uniwillReadEcRam, reliableEc_read, EcRead.status_ok, ne_eq,
        not_true_eq_false, if_false, run_uniwillWriteEcRam,
        reliableEc_write, EcWrite.status_ok, if_true, run_setStatics,
        run_pure]
      rfl

/-- The own register after a restore. -/
theorem ram_writeState_self (setting : ChargingSetting) :
    (reliableEc.run setting.writeState machine).2.2 setting.register =
      if setting.loaded machine.1 = true then
        setting.merge (machine.2 setting.register)
          (setting.remembered machine.1 &&& setting.low)
      else machine.2 setting.register := by
  rw [run_writeState]
  split
  · rw [run_set_reliable, Function.update_self]
  · rfl

theorem ram_writeState_of_ne (setting : ChargingSetting) {address : U16}
    (elsewhere : address ≠ setting.register) :
    (reliableEc.run setting.writeState machine).2.2 address =
      machine.2 address := by
  rw [run_writeState]
  split
  · rw [run_set_reliable, Function.update_of_ne elsewhere]
  · rfl

end Restores

end ChargingSetting

end TuxedoDrivers.Uniwill
