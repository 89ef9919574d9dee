import TuxedoDrivers.Sysfs
import TuxedoDrivers.Uniwill.ChargingTexts
import TuxedoDrivers.Uniwill.PlatformDriver
import TuxedoDrivers.Uniwill.SharedRegisters

/-!
# Attribute files of EC settings

Five settings are some bits of an EC register that a user stores as a text and
reads as a text.  Any access to the EC can fail, and a write that fails may
take effect.  Here is what one store and one show say and do on such an EC.
-/

namespace TuxedoDrivers.Uniwill

open Interaction

/-! ## Attributes of one bit -/

/-- A show of a bit; any error is `-EIO`. -/
def bitShow (get : Driver (Int × U8)) : Driver (Except Int String) := do
  let reply ← get
  if reply.1 = 0 then
    return .ok (sysfsEmitByte reply.2)
  else
    return .error (-eio)

/-- A store of a bit; the result is a negative error or `size`. -/
def bitStore (set : U8 → Driver Int) (buffer : String) (size : Nat) :
    Driver Int :=
  match kstrtou8 buffer 10 with
  | .error _ => return -einval
  | .ok value =>
      if value > 1 then
        return -einval
      else do
        let result ← set value
        if result = 0 then
          return (size : Int)
        else
          return -eio

def uwAcAutoBootShow : Driver (Except Int String) :=
  bitShow uwGetAcAutoBoot

def uwAcAutoBootStore (buffer : String) (size : Nat) : Driver Int :=
  bitStore uwSetAcAutoBoot buffer size

def uwUsbPowershareShow : Driver (Except Int String) :=
  bitShow uwGetUsbPowershare

def uwUsbPowershareStore (buffer : String) (size : Nat) : Driver Int :=
  bitStore uwSetUsbPowershare buffer size

/-! ## Fn lock -/

/-- The error or `*on`. -/
def uniwillWmiFnLockGet : Driver (Except Int Int) := do
  let reply ← uniwillReadEcRam uwEcRegKbdFnLockStatusBit
  if reply.status ≠ 0 then
    return .error reply.status
  else
    return .ok ((reply.data &&& uniwillFnLockMask) >>> 4).toNat

def uniwillFnLockShow : Driver (Except Int String) := do
  match ← uniwillWmiFnLockGet with
  | .error err => return .error err
  | .ok on => return .ok (toString on ++ "\n")

def uniwillFnLockStore (buf : String) (size : Nat) : Driver Int :=
  match kstrtoint buf 10 with
  | .error _ => return -einval
  | .ok on =>
      if on < 0 ∨ on > 1 then
        return -einval
      else do
        let err ← uniwillWmiFnLockSet on
        if err ≠ 0 then
          return err
        else
          return (size : Int)

/-! ## An EC that fails -/

/-- Any access may fail.  A read that succeeds shows the RAM, a write that
succeeds is stored, and a write that fails is stored or not. -/
structure Truthful {σ : Type} (device : EcDevice σ) (ram : σ → Ram) :
    Prop where
  keeps : ∀ address state, ram (device.read address state).2 = ram state
  shows : ∀ address state data,
    (device.read address state).1 = .ok data → data = ram state address
  stores : ∀ address data state,
    (device.write address data state).1 = .ok →
      ram (device.write address data state).2 =
        Function.update (ram state) address data
  storesOrNot : ∀ address data state,
    ram (device.write address data state).2 = ram state ∨
      ram (device.write address data state).2 =
        Function.update (ram state) address data

section Truthful

variable {σ : Type} {device : EcDevice σ} {ram : σ → Ram}

/-- An update of the first form is done when it says so, and else it is done
or not. -/
theorem Truthful.run_updateChecked (truthful : Truthful device ram)
    (address : U16) (update : U8 → U8)
    (written : DriverState → DriverState) (machine : Machine σ) :
    let reached := device.run (updateChecked address update written) machine
    let updated :=
      Function.update (ram machine.2) address
        (update (ram machine.2 address))
    (reached.1 = 0 ∧ ram reached.2.2 = updated) ∨
      (reached.1 = -eio ∧
        (ram reached.2.2 = ram machine.2 ∨ ram reached.2.2 = updated)) := by
  have keeps := truthful.keeps address machine.2
  have failed : ¬ -eio = 0 := by decide
  simp only [updateChecked, run_bind, run_uniwillReadEcRam, run_ite,
    run_uniwillWriteEcRam, run_setStatics, run_pure]
  rcases shape : (device.read address machine.2).1 with data | left
  · have shown := truthful.shows address machine.2 data shape
    have stores :=
      truthful.stores address (update data) (device.read address machine.2).2
    have storesOrNot :=
      truthful.storesOrNot address (update data)
        (device.read address machine.2).2
    rw [keeps] at stores storesOrNot
    simp only [EcRead.status_ok, EcRead.data_ok, ne_eq, not_true_eq_false,
      if_false]
    rw [← shown]
    obtain success | failure :
        (device.write address (update data)
          (device.read address machine.2).2).1 = .ok ∨
        (device.write address (update data)
          (device.read address machine.2).2).1 = .fail := by
      cases (device.write address (update data)
        (device.read address machine.2).2).1 <;> simp
    · simp only [success, EcWrite.status_ok, if_true]
      exact Or.inl ⟨trivial, stores success⟩
    · simp only [failure, EcWrite.status_fail, failed, if_false]
      exact Or.inr ⟨trivial, storesOrNot⟩
  · simp only [EcRead.status_fail, ne_eq, failed, not_false_eq_true, if_true]
    exact Or.inr ⟨trivial, Or.inl keeps⟩

end Truthful

/-! ## The five settings -/

inductive EcSetting where
  | charging (setting : ChargingSetting)
  | acAutoBoot
  | usbPowershare
  | fnLock
  deriving DecidableEq, Repr

namespace EcSetting

def register : EcSetting → U16
  | .charging setting => setting.register
  | .acAutoBoot => uwEcRegAcAutoBootStatus
  | .usbPowershare => uwEcRegUsbPowershareStatus
  | .fnLock => uwEcRegKbdFnLockStatusBit

def mask : EcSetting → U8
  | .charging setting => setting.mask
  | .acAutoBoot => 0x08
  | .usbPowershare => 0x10
  | .fnLock => uniwillFnLockMask

def store : EcSetting → String → Nat → Driver Int
  | .charging setting => setting.store
  | .acAutoBoot => uwAcAutoBootStore
  | .usbPowershare => uwUsbPowershareStore
  | .fnLock => uniwillFnLockStore

def display : EcSetting → Driver (Except Int String)
  | .charging setting => setting.display
  | .acAutoBoot => uwAcAutoBootShow
  | .usbPowershare => uwUsbPowershareShow
  | .fnLock => uniwillFnLockShow

/-- The value that a text of a bit names. -/
def bitAsked (buffer : String) : Option U8 :=
  match kstrtou8 buffer 10 with
  | .error _ => none
  | .ok value => if value > 1 then none else some value

/-- The bits that a text asks for, if it is accepted. -/
def asked : EcSetting → String → Option U8
  | .charging setting, buffer =>
      (optionOf setting.options buffer).map
        fun option => BitVec.shiftLeft option.value setting.shift
  | .acAutoBoot, buffer =>
      (bitAsked buffer).map fun value => BitVec.shiftLeft value 3
  | .usbPowershare, buffer =>
      (bitAsked buffer).map fun value => BitVec.shiftLeft value 4
  | .fnLock, buffer =>
      (onAsked buffer).map fun on => if on ≠ 0 then uniwillFnLockMask else 0

/-- What a show makes of the bits. -/
def text : EcSetting → U8 → Except Int String
  | .charging setting, bits =>
      match setting.options.find? fun option =>
          option.value == bits >>> setting.shift with
      | some option => .ok (option.descriptor ++ "\n")
      | none => .error (-eio)
  | .acAutoBoot, bits => .ok (sysfsEmitByte (bits >>> 3))
  | .usbPowershare, bits => .ok (sysfsEmitByte (bits >>> 4))
  | .fnLock, bits => .ok (sysfsEmitByte (bits >>> 4))

theorem register_injective {setting other : EcSetting}
    (same : setting.register = other.register) : setting = other := by
  rcases setting with (_ | _) | _ | _ | _ <;>
    rcases other with (_ | _) | _ | _ | _ <;>
    first | rfl | exact absurd same (by decide)

/-- The RAM with other bits of the setting. -/
def put (setting : EcSetting) (bits : U8) (ram : Ram) : Ram :=
  Function.update ram setting.register
    ((ram setting.register &&& ~~~setting.mask) ||| bits)

theorem bitAsked_le {buffer : String} {value : U8}
    (asks : bitAsked buffer = some value) : value ≤ 1 := by
  rw [bitAsked] at asks
  split at asks
  · cases asks
  · split at asks
    · cases asks
    · cases asks
      exact BitVec.not_lt.mp ‹_›

theorem asked_within {setting : EcSetting} {buffer : String} {bits : U8}
    (asks : setting.asked buffer = some bits) :
    bits &&& ~~~setting.mask = 0 := by
  have flag : ∀ value : U8, value ≤ 1 →
      (BitVec.shiftLeft value 3) &&& ~~~(0x08 : U8) = 0 ∧
        (BitVec.shiftLeft value 4) &&& ~~~(0x10 : U8) = 0 := by
    decide
  cases setting with
  | charging setting =>
      have shifted : ∀ option ∈ setting.options,
          (BitVec.shiftLeft option.value setting.shift) &&&
            ~~~setting.mask = 0 := by
        cases setting <;> decide
      obtain ⟨option, named, isBits⟩ := Option.map_eq_some_iff.mp asks
      rw [← isBits]
      exact shifted option (List.mem_of_find?_eq_some named)
  | acAutoBoot =>
      obtain ⟨value, named, isBits⟩ := Option.map_eq_some_iff.mp asks
      rw [← isBits]
      exact (flag value (bitAsked_le named)).1
  | usbPowershare =>
      obtain ⟨value, named, isBits⟩ := Option.map_eq_some_iff.mp asks
      rw [← isBits]
      exact (flag value (bitAsked_le named)).2
  | fnLock =>
      obtain ⟨on, named, isBits⟩ := Option.map_eq_some_iff.mp asks
      rw [← isBits]
      split <;> decide

/-- The bits are in the RAM if the result says so, and if it is an error they
are or are not. -/
def Reported (setting : EcSetting) (bits : U8) (before after : Ram)
    (success result : Int) : Prop :=
  (result = success ∧ after = setting.put bits before) ∨
    (result = -eio ∧ (after = before ∨ after = setting.put bits before))

/-! ## Stores -/

section Texts

variable {set : U8 → Driver Int} {buffer : String} {size : Nat}

theorem bitStore_refused (refused : bitAsked buffer = none) :
    bitStore set buffer size = pure (-einval) := by
  rw [bitAsked] at refused
  rw [bitStore]
  rcases parsed : kstrtou8 buffer 10 with err | value
  · rfl
  · by_cases above : value > 1
    · exact if_pos above
    · rw [parsed] at refused
      exact absurd ((if_neg above).symm.trans refused) (Option.some_ne_none _)

theorem bitStore_asked {value : U8} (asks : bitAsked buffer = some value) :
    bitStore set buffer size =
      set value >>= fun result =>
        if result = 0 then pure (size : Int) else pure (-eio) := by
  rw [bitAsked] at asks
  rw [bitStore]
  rcases parsed : kstrtou8 buffer 10 with err | read
  · rw [parsed] at asks
    cases asks
  · rw [parsed] at asks
    by_cases above : read > 1
    · cases (if_pos above).symm.trans asks
    · cases (if_neg above).symm.trans asks
      exact if_neg above

theorem uniwillFnLockStore_refused (refused : onAsked buffer = none) :
    uniwillFnLockStore buffer size = pure (-einval) := by
  rw [onAsked] at refused
  rw [uniwillFnLockStore]
  rcases parsed : kstrtoint buffer 10 with err | on
  · rfl
  · by_cases outside : on < 0 ∨ on > 1
    · exact if_pos outside
    · rw [parsed] at refused
      exact
        absurd ((if_neg outside).symm.trans refused) (Option.some_ne_none _)

theorem uniwillFnLockStore_asked {on : Int}
    (asks : onAsked buffer = some on) :
    uniwillFnLockStore buffer size =
      uniwillWmiFnLockSet on >>= fun err =>
        if err ≠ 0 then pure err else pure (size : Int) := by
  rw [onAsked] at asks
  rw [uniwillFnLockStore]
  rcases parsed : kstrtoint buffer 10 with err | read
  · rw [parsed] at asks
    cases asks
  · rw [parsed] at asks
    by_cases outside : read < 0 ∨ read > 1
    · cases (if_pos outside).symm.trans asks
    · cases (if_neg outside).symm.trans asks
      exact if_neg outside

end Texts

section Calls

variable {σ : Type} {device : EcDevice σ} {ram : σ → Ram}
  (machine : Machine σ)

/-- A text that asks for nothing is refused at once. -/
theorem run_store_refused {setting : EcSetting} {buffer : String}
    (refused : setting.asked buffer = none) (size : Nat) :
    device.run (setting.store buffer size) machine = (-einval, machine) := by
  have refuses : setting.store buffer size = pure (-einval) := by
    cases setting with
    | charging setting =>
        have unnamed := Option.map_eq_none_iff.mp refused
        simp only [store, ChargingSetting.store_eq, optionStore, unnamed]
    | acAutoBoot => exact bitStore_refused (Option.map_eq_none_iff.mp refused)
    | usbPowershare =>
        exact bitStore_refused (Option.map_eq_none_iff.mp refused)
    | fnLock =>
        exact uniwillFnLockStore_refused (Option.map_eq_none_iff.mp refused)
  rw [refuses, run_pure]

/-- What a store makes of the result of a set. -/
theorem reported_store {setting : EcSetting} {bits : U8} {set : Driver Int}
    (reported : setting.Reported bits (ram machine.2)
      (ram (device.run set machine).2.2) 0 (device.run set machine).1)
    (size : Nat) :
    let reached :=
      device.run
        (set >>= fun result =>
          if result = 0 then pure (size : Int) else pure (-eio)) machine
    setting.Reported bits (ram machine.2) (ram reached.2.2) size
      reached.1 := by
  have failing : ¬ -eio = 0 := by decide
  simp only [run_bind]
  rcases reported with ⟨success, holds⟩ | ⟨failure, holds⟩
  · rw [if_pos success]
    exact Or.inl ⟨rfl, holds⟩
  · rw [if_neg (failure ▸ failing)]
    exact Or.inr ⟨rfl, holds⟩

variable (truthful : Truthful device ram)

include truthful

/-- A set is an update that puts the bits. -/
theorem reported_update (setting : EcSetting) {bits : U8} {set : Driver Int}
    {update : U8 → U8} {written : DriverState → DriverState}
    (isUpdate : set = updateChecked setting.register update written)
    (puts : ∀ byte, update byte = (byte &&& ~~~setting.mask) ||| bits) :
    let reached := device.run set machine
    setting.Reported bits (ram machine.2) (ram reached.2.2) 0
      reached.1 := by
  have updated :=
    truthful.run_updateChecked setting.register update written machine
  rw [puts] at updated
  rw [isUpdate]
  exact updated

theorem reported_chargingSet (setting : ChargingSetting) {value : U8}
    (fits : value &&& setting.low = value) :
    let reached := device.run (setting.set value) machine
    (charging setting).Reported (BitVec.shiftLeft value setting.shift)
      (ram machine.2) (ram reached.2.2) 0 reached.1 := by
  cases setting with
  | priority =>
      have low : value &&& 0x01 = value := fits
      have isUpdate :
          uwSetChargingPriority value =
            updateChecked 0x07cc
              (fun previous =>
                (previous &&& ~~~((1 : U8) <<< 7)) |||
                  ((value &&& 0x01) <<< 7)) _ :=
        rfl
      refine
        reported_update machine truthful (.charging .priority) isUpdate
          fun byte => ?_
      rw [low]
      rfl
  | profile =>
      have low : value &&& 0x03 = value := fits
      have isUpdate :
          uwSetChargingProfile value =
            updateChecked 0x07a6
              (fun previous =>
                (previous &&& ~~~((0x03 : U8) <<< 4)) |||
                  ((value &&& 0x03) <<< 4)) _ :=
        rfl
      refine
        reported_update machine truthful (.charging .profile) isUpdate
          fun byte => ?_
      rw [low]
      rfl

theorem reported_fnLockSet (on : Int) :
    let reached := device.run (uniwillWmiFnLockSet on) machine
    fnLock.Reported (if on ≠ 0 then uniwillFnLockMask else 0)
      (ram machine.2) (ram reached.2.2) 0 reached.1 := by
  have isUpdate :
      uniwillWmiFnLockSet on =
        updateChecked uwEcRegKbdFnLockStatusBit
          (fun data =>
            if on ≠ 0 then data ||| uniwillFnLockMask
            else data &&& ~~~uniwillFnLockMask) id :=
    rfl
  have switchedOn : ∀ data : U8,
      data ||| 0x10 = (data &&& ~~~0x10) ||| 0x10 := by
    decide
  refine reported_update machine truthful .fnLock isUpdate fun byte => ?_
  by_cases isOn : on ≠ 0
  · rw [if_pos isOn, if_pos isOn]
    exact switchedOn byte
  · rw [if_neg isOn, if_neg isOn]
    exact BitVec.or_zero.symm

/-- A text that asks for something is stored if the result says so, and else
it is stored or not. -/
theorem reported_asked {setting : EcSetting} {buffer : String} {bits : U8}
    (asks : setting.asked buffer = some bits) (size : Nat) :
    let reached := device.run (setting.store buffer size) machine
    setting.Reported bits (ram machine.2) (ram reached.2.2) size
      reached.1 := by
  have low : ∀ value : U8, value ≤ 1 → value &&& 0x01 = value := by
    decide
  cases setting with
  | charging setting =>
      obtain ⟨option, named, isBits⟩ := Option.map_eq_some_iff.mp asks
      have reported :=
        reported_chargingSet machine truthful setting
          (ChargingSetting.optionOf_low named)
      rw [isBits] at reported
      simp only [store, ChargingSetting.store_eq, optionStore, named]
      exact reported_store machine reported size
  | acAutoBoot =>
      obtain ⟨value, named, isBits⟩ := Option.map_eq_some_iff.mp asks
      have isUpdate :
          uwSetAcAutoBoot value =
            updateChecked uwEcRegAcAutoBootStatus
              (fun previous =>
                (previous &&& ~~~((1 : U8) <<< 3)) |||
                  ((value &&& 0x01) <<< 3)) _ :=
        rfl
      have reported :=
        reported_update machine truthful .acAutoBoot isUpdate fun byte => by
          rw [low value (bitAsked_le named)]
          exact congrArg ((byte &&& ~~~0x08) ||| ·) isBits
      rw [store, uwAcAutoBootStore, bitStore_asked named]
      exact reported_store machine reported size
  | usbPowershare =>
      obtain ⟨value, named, isBits⟩ := Option.map_eq_some_iff.mp asks
      have isUpdate :
          uwSetUsbPowershare value =
            updateChecked uwEcRegUsbPowershareStatus
              (fun previous =>
                (previous &&& ~~~((1 : U8) <<< 4)) |||
                  ((value &&& 0x01) <<< 4)) _ :=
        rfl
      have reported :=
        reported_update machine truthful .usbPowershare isUpdate
          fun byte => by
            rw [low value (bitAsked_le named)]
            exact congrArg ((byte &&& ~~~0x10) ||| ·) isBits
      rw [store, uwUsbPowershareStore, bitStore_asked named]
      exact reported_store machine reported size
  | fnLock =>
      obtain ⟨on, named, isBits⟩ := Option.map_eq_some_iff.mp asks
      have failing : -eio ≠ 0 := by decide
      have reported := reported_fnLockSet machine truthful on
      rw [isBits] at reported
      rw [store, uniwillFnLockStore_asked named]
      simp only [run_bind]
      rcases reported with ⟨success, holds⟩ | ⟨failure, holds⟩
      · rw [if_neg (not_not_intro success)]
        exact Or.inl ⟨rfl, holds⟩
      · rw [if_pos (failure ▸ failing)]
        exact Or.inr ⟨failure, holds⟩

end Calls

/-! ## Shows -/

/-- What a show of the bits returns, where any error is `-EIO`. -/
def Displayed (setting : EcSetting) (content : U8)
    (result : Except Int String) : Prop :=
  result = setting.text (content &&& setting.mask) ∨ result = .error (-eio)

section Shows

variable {σ : Type} {device : EcDevice σ} {ram : σ → Ram}
  (truthful : Truthful device ram) (machine : Machine σ)

include truthful

theorem displayed_bitShow (setting : EcSetting) (offset : Nat)
    (shows : ∀ content,
      .ok (sysfsEmitByte ((content >>> offset) &&& 0x01)) =
        setting.text (content &&& setting.mask)) :
    let reached :=
      device.run (bitShow (uwGetBit setting.register offset)) machine
    setting.Displayed (ram machine.2 setting.register) reached.1 ∧
      reached.2.1 = machine.1 ∧ ram reached.2.2 = ram machine.2 := by
  have keeps := truthful.keeps setting.register machine.2
  have failed : ¬ -eio = 0 := by decide
  simp only [bitShow, uwGetBit, run_bind, run_uniwillReadEcRam]
  rcases shape : (device.read setting.register machine.2).1 with data | left
  · have shown := truthful.shows setting.register machine.2 data shape
    simp only [EcRead.status_ok, EcRead.data_ok, if_true, run_pure]
    rw [← shown, shows]
    exact ⟨Or.inl rfl, trivial, keeps⟩
  · simp only [EcRead.status_fail]
    exact ⟨Or.inr rfl, rfl, keeps⟩

theorem displayed_fnLockShow :
    let reached := device.run uniwillFnLockShow machine
    fnLock.Displayed (ram machine.2 uwEcRegKbdFnLockStatusBit) reached.1 ∧
      reached.2.1 = machine.1 ∧ ram reached.2.2 = ram machine.2 := by
  have keeps := truthful.keeps uwEcRegKbdFnLockStatusBit machine.2
  have failed : -eio ≠ 0 := by decide
  simp only [uniwillFnLockShow, uniwillWmiFnLockGet, run_bind,
    run_uniwillReadEcRam]
  rcases shape : (device.read uwEcRegKbdFnLockStatusBit machine.2).1 with
    data | left
  · have shown :=
      truthful.shows uwEcRegKbdFnLockStatusBit machine.2 data shape
    simp only [EcRead.status_ok, EcRead.data_ok, ne_eq, not_true_eq_false,
      if_false, run_pure]
    rw [← shown]
    exact ⟨Or.inl rfl, trivial, keeps⟩
  · simp only [EcRead.status_fail]
    exact ⟨Or.inr rfl, rfl, keeps⟩

theorem displayed_chargingShow (setting : ChargingSetting) :
    let reached := device.run setting.display machine
    (charging setting).Displayed (ram machine.2 setting.register)
        reached.1 ∧
      reached.2.1 = machine.1 ∧ ram reached.2.2 = ram machine.2 := by
  have keeps := truthful.keeps setting.register machine.2
  have failed : -eio ≠ 0 := by decide
  have priorityBits : ∀ bits : U8,
      (bits >>> 7) &&& 0x01 = (bits &&& 0x80) >>> 7 := by
    decide
  have profileBits : ∀ bits : U8,
      (bits >>> 4) &&& 0x03 = (bits &&& 0x30) >>> 4 := by
    decide
  have got :
      (device.run setting.get machine).2 =
          (machine.1, (device.read setting.register machine.2).2) ∧
        ((device.run setting.get machine).1 =
            (0, setting.field (ram machine.2 setting.register)) ∨
          (device.run setting.get machine).1.1 = -eio) := by
    have shown := truthful.shows setting.register machine.2
    cases setting with
    | priority =>
        simp only [ChargingSetting.get, uwGetChargingPriority, run_bind,
          run_uniwillReadEcRam, run_pure, ChargingSetting.register] at shown ⊢
        rcases shape : (device.read 0x07cc machine.2).1 with data | left
        · rw [← shown data shape]
          exact ⟨trivial, Or.inl (congrArg (Prod.mk 0) (priorityBits data))⟩
        · exact ⟨trivial, Or.inr rfl⟩
    | profile =>
        simp only [ChargingSetting.get, run_uwGetChargingProfile,
          ChargingSetting.register] at shown ⊢
        rcases shape : (device.read 0x07a6 machine.2).1 with data | left
        · rw [← shown data shape]
          exact ⟨trivial, Or.inl (congrArg (Prod.mk 0) (profileBits data))⟩
        · exact ⟨trivial, Or.inr rfl⟩
  rw [ChargingSetting.display_eq, optionShow]
  simp only [run_bind]
  obtain ⟨after, success | failure⟩ := got
  · rw [success, after, if_neg (not_not_intro rfl)]
    rcases found : setting.options.find? fun option =>
        option.value == setting.field (ram machine.2 setting.register) with
      _ | option
    · simp only [found, run_pure]
      exact ⟨Or.inr rfl, trivial, keeps⟩
    · have shows :
          (charging setting).text
              (ram machine.2 setting.register &&& setting.mask) =
            .ok (option.descriptor ++ "\n") := by
        simp only [text]
        exact congrArg
          (fun result : Option CharToU8 =>
            match result with
            | some option => Except.ok (option.descriptor ++ "\n")
            | none => .error (-eio)) found
      simp only [found, run_pure]
      exact ⟨Or.inl shows.symm, trivial, keeps⟩
  · rw [if_pos (failure ▸ failed), failure, after]
    exact ⟨Or.inr rfl, rfl, keeps⟩

/-- A show that does not fail shows the bits, and no show changes
anything. -/
theorem displayed_display (setting : EcSetting) :
    let reached := device.run setting.display machine
    setting.Displayed (ram machine.2 setting.register) reached.1 ∧
      reached.2.1 = machine.1 ∧ ram reached.2.2 = ram machine.2 := by
  cases setting with
  | charging setting => exact displayed_chargingShow truthful machine setting
  | acAutoBoot =>
      have shows : ∀ content : U8,
          (content >>> 3) &&& 0x01 = (content &&& 0x08) >>> 3 := by
        decide
      exact
        displayed_bitShow truthful machine .acAutoBoot 3 fun content =>
          congrArg (fun bit => Except.ok (sysfsEmitByte bit)) (shows content)
  | usbPowershare =>
      have shows : ∀ content : U8,
          (content >>> 4) &&& 0x01 = (content &&& 0x10) >>> 4 := by
        decide
      exact
        displayed_bitShow truthful machine .usbPowershare 4 fun content =>
          congrArg (fun bit => Except.ok (sysfsEmitByte bit)) (shows content)
  | fnLock => exact displayed_fnLockShow truthful machine

end Shows

/-- The settings of one bit. -/
def flags : List EcSetting :=
  [.acAutoBoot, .usbPowershare, .fnLock]

theorem asked_text_flag {setting : EcSetting} (isFlag : setting ∈ flags)
    {content : U8} {printed : String}
    (shown : setting.text (content &&& setting.mask) = .ok printed) :
    setting.asked printed = some (content &&& setting.mask) := by
  have values : ∀ setting ∈ flags, ∀ content : U8,
      content &&& setting.mask = 0 ∨
        content &&& setting.mask = setting.mask := by
    decide
  have again : ∀ setting ∈ flags, ∀ bits ∈ [0, setting.mask],
      (setting.text bits).toOption.bind setting.asked = some bits := by
    decide +kernel
  have isValue : content &&& setting.mask ∈ [0, setting.mask] := by
    rcases values setting isFlag content with off | on
    · rw [off]
      exact List.mem_cons_self
    · rw [on]
      exact List.mem_cons_of_mem 0 List.mem_cons_self
  have parsed := again setting isFlag _ isValue
  rw [shown] at parsed
  exact parsed

/-- What a show of bits prints asks for the same bits. -/
theorem asked_text {setting : EcSetting} {content : U8} {printed : String}
    (shown : setting.text (content &&& setting.mask) = .ok printed) :
    setting.asked printed = some (content &&& setting.mask) := by
  cases setting with
  | charging setting =>
      have again : ∀ option ∈ setting.options,
          (charging setting).asked (option.descriptor ++ "\n") =
            some (BitVec.shiftLeft option.value setting.shift) := by
        cases setting <;> decide +kernel
      have shifted : ∀ bits : U8,
          BitVec.shiftLeft ((bits &&& setting.mask) >>> setting.shift)
            setting.shift = bits &&& setting.mask := by
        cases setting <;> decide
      simp only [text] at shown
      split at shown
      case h_1 option found =>
        cases shown
        have same := List.find?_some found
        rw [again option (List.mem_of_find?_eq_some found),
          beq_iff_eq.mp same]
        exact congrArg some (shifted content)
      case h_2 => cases shown
  | acAutoBoot => exact asked_text_flag (by decide) shown
  | usbPowershare => exact asked_text_flag (by decide) shown
  | fnLock => exact asked_text_flag (by decide) shown

end EcSetting

end TuxedoDrivers.Uniwill
