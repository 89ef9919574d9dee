import TuxedoDrivers.Hwmon
import TuxedoDrivers.Nb04.WmiMethods

/-!
# NB04 methods that return a status

The output of a method of `tuxedo_nb04_wmi_bs.c` starts with two bytes that
tell whether the firmware did what it was asked for.  The drivers take any
status but success for an I/O error.
-/

namespace TuxedoDrivers.Nb04

open Interaction
open TuxedoDrivers.Wmi

abbrev wmiReturnStatusSuccess : Nat := 0

/-- A method whose output starts with `enum wmi_return_status`. -/
def bsMethodWithStatus (wmiMethodId : U32)
    (input : Vector U8 bsInputBufferLength) :
    Methods (Except Int (List U8)) := do
  let result ← nb04WmiBsMethod wmiMethodId input
  match result with
  | .error err => return .error err
  | .ok out =>
      if (wordOfBytes (out.getD 1 0) (out.getD 0 0)).toNat ≠
          wmiReturnStatusSuccess then
        return .error (-eio)
      else
        return .ok out

/-- The first two bytes, the status. -/
def StatusSuccess (out : List U8) : Prop :=
  out.getD 0 0 = 0 ∧ out.getD 1 0 = 0

instance (out : List U8) : Decidable (StatusSuccess out) :=
  inferInstanceAs (Decidable (_ ∧ _))

theorem statusSuccess_iff {out : List U8} :
    StatusSuccess out ↔
      (wordOfBytes (out.getD 1 0) (out.getD 0 0)).toNat =
        wmiReturnStatusSuccess := by
  rw [StatusSuccess, toNat_wordOfBytes, ← BitVec.toNat_inj,
    ← BitVec.toNat_inj]
  change (out.getD 0 0).toNat = 0 ∧ (out.getD 1 0).toNat = 0 ↔ _ = 0
  omega

/-- What such a method makes of the answer of the firmware. -/
def statusResult (reply : Reply) : Except Int (List U8) :=
  match reply.buffer bsOutputBufferLength (-einval) with
  | .error err => .error err
  | .ok out => if StatusSuccess out then .ok out else .error (-eio)

theorem statusResult_error_neg {reply : Reply} {err : Int}
    (failed : statusResult reply = .error err) : err < 0 := by
  unfold statusResult at failed
  cases result : reply.buffer bsOutputBufferLength (-einval) with
  | ok out =>
      rw [result] at failed
      by_cases success : StatusSuccess out
      · simp only [if_pos success, reduceCtorEq] at failed
      · simp only [if_neg success, Except.error.injEq] at failed
        rw [← failed]
        decide
  | error code =>
      rw [result] at failed
      cases failed
      cases reply with
      | failure =>
          cases result
          decide
      | success object =>
          cases object with
          | none =>
              cases result
              decide
          | some object =>
              cases object with
              | integer value =>
                  cases result
                  decide
              | buffer bytes =>
                  rw [Reply.buffer] at result
                  split at result
                  · cases result
                  · cases result
                    decide
              | other =>
                  cases result
                  decide

theorem bsMethodWithStatus_eq (wmiMethodId : U32)
    (input : Vector U8 bsInputBufferLength) :
    bsMethodWithStatus wmiMethodId input =
      wmiMethod statusResult wmiMethodId input.toList := by
  have checked : ∀ reply : Reply,
      (match reply.buffer bsOutputBufferLength (-einval) with
        | .error err => return .error err
        | .ok out =>
            if (wordOfBytes (out.getD 1 0) (out.getD 0 0)).toNat ≠
                wmiReturnStatusSuccess then
              return .error (-eio)
            else
              return .ok out : Methods (Except Int (List U8))) =
        pure (statusResult reply) := by
    intro reply
    unfold statusResult
    cases reply.buffer bsOutputBufferLength (-einval) with
    | error err => rfl
    | ok out =>
        simp only [ne_eq, ← statusSuccess_iff]
        by_cases success : StatusSuccess out
        · rw [if_neg (not_not_intro success), if_pos success]
        · rw [if_pos success, if_neg success]
  rw [bsMethodWithStatus, nb04WmiBsMethod, wmiMethod, wmiMethod, bind_assoc]
  apply bind_congr
  intro wmiDev
  cases wmiDev with
  | none => rfl
  | some device =>
      rw [bind_assoc]
      apply bind_congr
      intro reply
      exact checked reply

/-! ## Firmware that returns one buffer -/

def bufferFirmware (out : List U8) : Environment wmiSignature Unit
  | .getWmiDev, _ => (some 0, ())
  | .evaluateMethod _ _ _, _ => (.success (some (.buffer out)), ())
  | .tuxedoIsCompatible, _ => (true, ())
  | .wmiHasGuid, _ => (true, ())
  | .devmKzalloc _, _ => (true, ())
  | .setWmiDev _, _ => ((), ())
  | .setDrvdata _, _ => ((), ())

theorem run_bsMethodWithStatus {out : List U8}
    (length : out.length = bsOutputBufferLength)
    (wmiMethodId : U32) (input : Vector U8 bsInputBufferLength) :
    ((bsMethodWithStatus wmiMethodId input).run (bufferFirmware out) ()).1 =
      if StatusSuccess out then .ok out else .error (-eio) := by
  rw [bsMethodWithStatus_eq]
  change statusResult (.success (some (.buffer out))) = _
  rw [statusResult, Reply.buffer, if_pos length]

end TuxedoDrivers.Nb04
