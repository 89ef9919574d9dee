import Mathlib.Data.List.GetD
import TuxedoDrivers.Interaction.RelyGuarantee
import TuxedoDrivers.Nb05.FanAttributes
import TuxedoDrivers.Nb05.Sensors

/-!
# The clients of the EC RAM of the NB05 machines

The fan control, the keyboard backlight, the sensors and the probes share one
EC RAM.  They do not exclude each other for longer than one call, so the
tables of a fan may be mixed from two stores, but every byte stays one that
some call writes.
-/

namespace TuxedoDrivers.Nb05

open Interaction

/-! ## Keyboard backlight -/

abbrev nb05KbdBrightnessMaxWhite : Nat := 0x02

def whiteBrightnessToLevelMap : List U8 :=
  [0x00, 0x5c, 0xb8]

/-- The register of the machine that `ident` names. -/
def nb05KbdRegister (ident : String) : U16 :=
  if ident = iflx14i01 then 0x03e2 else 0x0409

/-- `ident` is that of the machine which `nb05_match_device` finds. -/
def nb05LedsSetBrightness (ident : String) (brightness : U32) : Ec Unit := do
  if brightness.toNat > nb05KbdBrightnessMaxWhite then
    return ()
  else
    nb05WriteEcRam (nb05KbdRegister ident)
      (whiteBrightnessToLevelMap.getD brightness.toNat 0)

/-! ## Calls -/

/-- What the drivers keep of a machine. -/
structure EcClients where
  ident : String
  fanControl : DriverData
  sensors : SensorsData

inductive EcCall where
  | probe
  | fan (attr : FanAttr) (call : FanCall)
  | setBrightness (brightness : U32)
  | hwmonRead (type : HwmonSensorType) (attr : HwmonFanAttr) (channel : Int)
  deriving DecidableEq

namespace EcCall

def program (clients : EcClients) : EcCall → Ec Unit
  | .probe =>
      (fun _ => ()) <$> tuxedoNb05EcProbe clients.fanControl.ecData.devData
  | .fan attr call => (fun _ => ()) <$> attr.call clients.fanControl call
  | .setBrightness brightness =>
      nb05LedsSetBrightness clients.ident brightness
  | .hwmonRead type attr channel =>
      (fun _ => ()) <$>
        tuxedoNb05HwmonRead clients.sensors type attr channel

/-- What a call may write: the store of a number what its attribute takes,
and a brightness its level. -/
def Writes (clients : EcClients) : EcCall → U16 → U8 → Prop
  | .fan attr (.store buffer _), address, data =>
      (kstrtou8 buffer 0).isOk = true ∧
        attr.Writes clients.fanControl address data
  | .setBrightness brightness, address, data =>
      address = nb05KbdRegister clients.ident ∧
        whiteBrightnessToLevelMap[brightness.toNat]? = some data
  | _, _, _ => False

/-- The requests of a call: any read, and what it may write. -/
def Allows (clients : EcClients) (call : EcCall) : EcRequest → Prop
  | .readEcRam _ => True
  | .writeEcRam address data => call.Writes clients address data

variable (clients : EcClients)

theorem asks_hwmonRead (type : HwmonSensorType) (attr : HwmonFanAttr)
    (channel : Int) {allowed : EcRequest → Prop}
    (reads : ∀ address, allowed (.readEcRam address)) :
    (tuxedoNb05HwmonRead clients.sensors type attr channel).Asks
      allowed := by
  have read (address : U16) : (nb05ReadEcRam address).Asks allowed :=
    asks_nb05ReadEcRam (reads address)
  have fan1 : readFan1Rpm.Asks allowed :=
    (read _).bind fun _ => (read _).bind fun _ => trivial
  have fan2 : readFan2Rpm.Asks allowed :=
    (read _).bind fun _ => (read _).bind fun _ => trivial
  unfold tuxedoNb05HwmonRead
  cases type with
  | temp =>
      exact (read _).bind fun _ => trivial
  | fan =>
      cases attr with
      | min => exact Program.Asks.ite (fun _ => trivial) fun _ => trivial
      | max => exact Program.Asks.ite (fun _ => trivial) fun _ => trivial
      | input =>
          apply Program.Asks.ite
          · exact fun _ => fan1.bind fun _ => trivial
          · intro _
            apply Program.Asks.ite
            · exact fun _ => fan2.bind fun _ => trivial
            · exact fun _ => trivial
      | other => trivial
  | other => trivial

theorem asks_program (call : EcCall) :
    (call.program clients).Asks (call.Allows clients) := by
  cases call with
  | probe =>
      have read (address : U16) :
          (nb05ReadEcRam address).Asks (probe.Allows clients) :=
        asks_nb05ReadEcRam trivial
      have version : nb05ReadEcFwVersion.Asks (probe.Allows clients) :=
        (read _).bind fun _ => (read _).bind fun _ => trivial
      apply Program.Asks.map
      exact version.bind fun _ => trivial
  | fan attr call =>
      apply Program.Asks.map
      cases call with
      | display =>
          exact (attr.asks_display _ fun _ _ => trivial).map _
      | store buffer size =>
          apply Program.Asks.map
          cases parsed : kstrtou8 buffer 0 with
          | error err =>
              rw [attr.store_of_error _ parsed]
              trivial
          | ok value =>
              have isNumber : (kstrtou8 buffer 0).isOk = true := by
                rw [parsed]
                rfl
              apply attr.asks_store
              exact fun _ _ writes => ⟨isNumber, writes⟩
  | setBrightness brightness =>
      apply Program.Asks.ite
      · exact fun _ => trivial
      · intro inRange
        apply asks_nb05WriteEcRam
        constructor
        · rfl
        · have upper : ¬ brightness.toNat > 2 := inRange
          have listed :
              brightness.toNat < whiteBrightnessToLevelMap.length := by
            change brightness.toNat < 3
            omega
          rw [List.getD_eq_getElem _ _ listed]
          exact List.getElem?_eq_getElem listed
  | hwmonRead type attr channel =>
      exact (asks_hwmonRead clients type attr channel fun _ => trivial).map _

end EcCall

/-! ## Threads -/

section Threads

variable {ι : Type} (clients : EcClients) (calls : ι → List EcCall)

/-- A byte that stood in a register before, or that a call may write to it. -/
def Accounted (before : Ram) (address : U16) (data : U8) : Prop :=
  data = before address ∨
    ∃ thread, ∃ call ∈ calls thread, call.Writes clients address data

/-- The registers of a fan for high temperatures. -/
def Fan.HightempRegister (fan : Fan) (address : U16) : Prop :=
  fan.dutyTable + 7 ≤ address.toNat ∧ address.toNat ≤ fan.dutyTable + 8

/-- No call writes less than 51 there. -/
theorem hightemp_of_writes {clients : EcClients} {fan : Fan}
    {address : U16} (isHightemp : fan.HightempRegister address) {data : U8}
    {call : EcCall} (writes : call.Writes clients address data) :
    51 ≤ data.toNat := by
  have bounds : fan.dutyTable + 7 ≤ address.toNat ∧
      address.toNat ≤ fan.dutyTable + 8 := isHightemp
  have owned : (FanAttr.pwm fan).Owns address :=
    Or.inl ⟨by omega, bounds.2⟩
  have value (register : U16) (here : address = register) :
      address.toNat = register.toNat := by
    rw [here]
  cases call with
  | probe => cases writes
  | hwmonRead type attr channel => cases writes
  | setBrightness brightness =>
      have register := value _ writes.1
      unfold nb05KbdRegister at register
      cases fan <;> simp only [Fan.dutyTable] at bounds <;>
        split at register <;> simp at register <;> omega
  | fan attr call =>
      cases call with
      | display => cases writes
      | store buffer size =>
          by_cases same : FanAttr.pwm fan = attr
          · subst same
            rcases writes.2 with duty | ⟨-, rpm⟩
            · split at duty
              case isTrue onereg =>
                have register := value _ duty.1
                rw [onereg.1] at bounds
                simp only [Fan.dutyTable] at bounds
                simp at register
                omega
              case isFalse =>
                rcases duty with low | high
                · omega
                · exact high.2.2.1
            · cases fan <;> simp only [Fan.dutyTable] at bounds <;>
                simp only [Fan.rpmTable] at rpm <;>
                rcases rpm with low | high <;> omega
          · have otherOwns :=
              FanAttr.owns_of_writes clients.fanControl attr writes.2
            exact absurd otherOwns (FanAttr.owns_apart same owned)

/-- What the calls together may ask. -/
def AllowsAny (request : EcRequest) : Prop :=
  ∃ thread, ∃ call ∈ calls thread, call.Allows clients request

theorem upholds_accounted (before : Ram) :
    Upholds ramEc
      (fun ram => ∀ address,
        Accounted clients calls before address (ram address))
      (fun _ _ => True) (AllowsAny clients calls) where
  answers := fun _ _ _ _ => trivial
  keeps := by
    intro request ram accounted allowed
    cases request with
    | readEcRam address =>
        exact accounted
    | writeEcRam address data =>
        intro other
        rcases allowed with ⟨thread, call, member, writes⟩
        by_cases here : other = address
        · subst here
          simp only [ramEc, Function.update_self]
          exact Or.inr ⟨thread, call, member, writes⟩
        · simp only [ramEc, Function.update_of_ne here]
          exact accounted other

theorem asks_calls (thread : ι) :
    ((calls thread).forM fun call => call.program clients).Asks
      (AllowsAny clients calls) := by
  apply Program.Asks.forM
  intro call member
  apply (call.asks_program clients).mono
  exact fun request allows => ⟨thread, call, member, allows⟩

end Threads

end TuxedoDrivers.Nb05
