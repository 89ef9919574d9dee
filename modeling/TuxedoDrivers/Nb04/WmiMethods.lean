import TuxedoDrivers.Interaction.Program
import TuxedoDrivers.Wmi

/-!
# WMI methods of the NB04 machines

`tuxedo_nb04_wmi_ab.c` and `tuxedo_nb04_wmi_bs.c`.  Each module keeps its
device in a variable of its own and calls the firmware through it.
-/

namespace TuxedoDrivers.Nb04

open Interaction
open TuxedoDrivers.Wmi

/-! ## Requests -/

inductive WmiRequest where
  | getWmiDev
  | setWmiDev (device : Option Device)
  | evaluateMethod (device : Device) (methodId : U32) (input : List U8)
  | tuxedoIsCompatible
  | wmiHasGuid
  | devmKzalloc (device : Device)
  | setDrvdata (device : Device)
  deriving DecidableEq, Repr

abbrev WmiRequest.Answer : WmiRequest → Type
  | .getWmiDev => Option Device
  | .evaluateMethod _ _ _ => Reply
  | .tuxedoIsCompatible => Bool
  | .wmiHasGuid => Bool
  | .devmKzalloc _ => Bool
  | _ => Unit

abbrev wmiSignature : Signature :=
  ⟨WmiRequest, WmiRequest.Answer⟩

abbrev Methods (α : Type) : Type :=
  Program wmiSignature α

def request (item : WmiRequest) : Methods item.Answer :=
  Program.request (S := wmiSignature) item

/-! ## Methods -/

/-- A method of either module: what it makes of the answer is all that the
methods differ in. -/
def wmiMethod {α : Type} (result : Reply → Except Int α)
    (wmiMethodId : U32) (input : List U8) : Methods (Except Int α) := do
  let wmiDev ← request .getWmiDev
  match wmiDev with
  | some device =>
      let reply ← request (.evaluateMethod device wmiMethodId input)
      return result reply
  | none => return .error (-enodev)

abbrev abInputBufferLengthNormal : Nat := 8

abbrev abInputBufferLengthExtended : Nat := 496

abbrev abOutputBufferLength : Nat := 80

abbrev abOutputBufferLengthReduced : Nat := 10

abbrev bsInputBufferLength : Nat := 8

abbrev bsOutputBufferLength : Nat := 80

def nb04WmiAbMethodBuffer (wmiMethodId : U32)
    (input : Vector U8 abInputBufferLengthNormal) :
    Methods (Except Int (List U8)) :=
  wmiMethod (Reply.buffer abOutputBufferLength (-eio)) wmiMethodId
    input.toList

def nb04WmiAbMethodBufferReducedOutput (wmiMethodId : U32)
    (input : Vector U8 abInputBufferLengthNormal) :
    Methods (Except Int (List U8)) :=
  wmiMethod (Reply.buffer abOutputBufferLengthReduced (-eio)) wmiMethodId
    input.toList

def nb04WmiAbMethodExtendedInput (wmiMethodId : U32)
    (input : Vector U8 abInputBufferLengthExtended) :
    Methods (Except Int (List U8)) :=
  wmiMethod (Reply.buffer abOutputBufferLength (-eio)) wmiMethodId
    input.toList

def nb04WmiAbMethodIntOut (wmiMethodId : U32)
    (input : Vector U8 abInputBufferLengthNormal) :
    Methods (Except Int U64) :=
  wmiMethod Reply.integer wmiMethodId input.toList

/-- An object of another type than a buffer comes from an invalid method
number. -/
def nb04WmiBsMethod (wmiMethodId : U32)
    (input : Vector U8 bsInputBufferLength) :
    Methods (Except Int (List U8)) :=
  wmiMethod (Reply.buffer bsOutputBufferLength (-einval)) wmiMethodId
    input.toList

def nb04WmiBsAvailable : Methods Bool := do
  let wmiDev ← request .getWmiDev
  return wmiDev.isSome

/-! ## Binding -/

def tuxedoNb04WmiAbProbe (wdev : Device) : Methods Int := do
  let compatible ← request .tuxedoIsCompatible
  if compatible = false then
    return -enodev
  else
    let hasGuid ← request .wmiHasGuid
    if hasGuid = false then
      return -enodev
    else
      let allocated ← request (.devmKzalloc wdev)
      if allocated = false then
        return -enomem
      else
        request (.setDrvdata wdev)
        request (.setWmiDev (some wdev))
        return 0

def tuxedoNb04WmiAbRemove (_wdev : Device) : Methods Unit :=
  request (.setWmiDev none)

def tuxedoNb04WmiProbe (wdev : Device) : Methods Int := do
  let compatible ← request .tuxedoIsCompatible
  if compatible = false then
    return -enodev
  else
    let hasGuid ← request .wmiHasGuid
    if hasGuid = false then
      return -enodev
    else
      request (.setWmiDev (some wdev))
      let allocated ← request (.devmKzalloc wdev)
      if allocated = false then
        return -enomem
      else
        request (.setDrvdata wdev)
        return 0

def tuxedoNb04WmiRemove (_wdev : Device) : Methods Unit :=
  return ()

end TuxedoDrivers.Nb04
