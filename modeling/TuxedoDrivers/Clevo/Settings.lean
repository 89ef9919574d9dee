import TuxedoDrivers.Clevo.Methods

/-!
# Fn lock and flexicharger

The settings of `clevo_keyboard.h` that are written through a method call
with a buffer argument.  Both read the present setting first and keep what
they are not asked to change.
-/

namespace TuxedoDrivers.Clevo

open Interaction

section Settings

variable (activeClevoInterface : Option ClevoInterface)

/-- What a byte variable holds. -/
def readByte : Option U8 → Call U8
  | some byte => pure byte
  | none => strayByte

/-! ## Fn lock -/

/-- The variables of the caller, `none` where nothing was stored. -/
structure FnStatus where
  on : Option U8 := none
  kbstatus1 : Option U8 := none
  kbstatus2 : Option U8 := none
  deriving DecidableEq, Repr

/-- Only a buffer is freed, and only a long enough one is stored from. -/
def clevoAcpiFnGet : Call (Int × FnStatus) := do
  let reply ← clevoEvaluateMethod2 activeClevoInterface 0x4 0x18 true
  if reply.status ≠ 0 then
    return (reply.status, {})
  else
    match ← readObject reply.stored with
    | .buffer (fnlock :: kbstatus1 :: kbstatus2 :: _) => do
        acpiFree reply.stored
        let on : Option U8 :=
          if fnlock = 1 then some 1
          else if fnlock = 2 then some 0
          else none
        let status := if on.isSome = true then reply.status else -enodata
        return (status, ⟨on, some kbstatus1, some kbstatus2⟩)
    | .buffer _ => do
        acpiFree reply.stored
        return (reply.status, {})
    | .integer _ | .other => return (reply.status, {})

/-- `fnlock_off` is 2 and `fnlock_on` is 1. -/
def fnLockArgs (on : Int) (kbstatus1 kbstatus2 : U8) : List U8 :=
  [0x19, if on ≠ 0 then 0x01 else 0x02, kbstatus1, kbstatus2]

def clevoAcpiFnLockSet (on : Int) : Call Int := do
  let previous ← clevoAcpiFnGet activeClevoInterface
  if previous.1 ≠ 0 then
    return previous.1
  else
    let kbstatus1 ← readByte previous.2.kbstatus1
    let kbstatus2 ← readByte previous.2.kbstatus2
    let reply ←
      clevoEvaluateMethodPkgbuf activeClevoInterface 0x4
        (fnLockArgs on kbstatus1 kbstatus2) true
    if reply.status ≠ 0 then
      return reply.status
    else
      acpiFree reply.stored
      return reply.status

/-! ## Flexicharger -/

/-- `start`, `end` and `status`. -/
structure Flexicharger where
  start : U8
  stop : U8
  status : U8
  deriving DecidableEq, Repr

/-- The values that a pointer argument which is not null receives, or a
negative status. -/
def clevoCc4FlexichargerRead : Call (Except Int Flexicharger) := do
  let reply ← clevoEvaluateMethod2 activeClevoInterface 0x04 0x1e true
  if reply.status ≠ 0 then
    return .error (-eio)
  else
    match ← readObject reply.stored with
    | .buffer (status :: start :: stop :: _) => do
        acpiFree reply.stored
        if stop = 0 ∧ start = 0 then
          return .error (-enodev)
        else
          return .ok ⟨start, stop, status⟩
    | .buffer _ | .integer _ | .other => do
        acpiFree reply.stored
        return .error (-eio)

/-- The 255 bytes of `buffer_set`. -/
def flexichargerArgs (set : Flexicharger) : List U8 :=
  [0x1f, set.status, set.start, set.stop] ++ List.replicate 251 0

/-- A null parameter keeps the previous value. -/
def clevoCc4FlexichargerWrite (paramStart paramEnd paramStatus : Option U8) :
    Call Int := do
  match ← clevoCc4FlexichargerRead activeClevoInterface with
  | .error _ => return -eio
  | .ok previous =>
      let reply ←
        clevoEvaluateMethodPkgbuf activeClevoInterface 0x04
          (flexichargerArgs
            { start := paramStart.getD previous.start
              stop := paramEnd.getD previous.stop
              status := paramStatus.getD previous.status }) true
      if reply.status ≠ 0 then
        return -eio
      else
        acpiFree reply.stored
        return 0

end Settings

end TuxedoDrivers.Clevo
