import TuxedoDrivers.Interaction.Tally
import TuxedoDrivers.Ite.Ite8291

/-!
# What the probes of the ITE drivers ask of the kernel

The steps of `driver_probe_callb` in the three drivers, the outcomes they can
have, and what is counted in a run: the successful starts and opens of the
device with their counterparts, and the LEDs that are registered and
unregistered.
-/

namespace TuxedoDrivers.Ite

open Interaction

/-! ## Requests -/

/-- The multicolour LEDs, which are registered with `devm`. -/
inductive McLedId where
  | perkey (row : Fin ite8291NrRows) (column : Fin ite8291LedsPerRowMax)
  | zone (index : Fin 4)
  | lightbar
  deriving DecidableEq, Repr

/-- The LEDs of `ite_8297`, which are not. -/
inductive ClassLedId where
  | red
  | green
  | blue
  deriving DecidableEq, Repr

/-- What memory is allocated for. -/
inductive Allocation where
  | driverData
  | deviceData
  | colorList
  deriving DecidableEq, Repr

inductive ProbeRequest where
  | hidParse
  | hidHwStart
  | hidHwPower (fullOn : Bool)
  | hidHwOpen
  | hidHwClose
  | hidHwStop
  | devmKzalloc (allocation : Allocation)
  | devmLedRegister (led : McLedId)
  | devmLedUnregister (led : McLedId)
  | ledClassdevRegister (led : ClassLedId)
  | ledClassdevUnregister (led : ClassLedId)
  | sysfsCreateGroup
  | transfer (request : HidRequest)
  deriving DecidableEq, Repr

abbrev ProbeRequest.Answer : ProbeRequest → Type
  | .hidParse => Int
  | .hidHwStart => Int
  | .hidHwPower _ => Int
  | .hidHwOpen => Int
  | .hidHwClose => Unit
  | .hidHwStop => Unit
  | .devmKzalloc _ => Bool
  | .devmLedRegister _ => Int
  | .devmLedUnregister _ => Unit
  | .ledClassdevRegister _ => Int
  | .ledClassdevUnregister _ => Unit
  | .sysfsCreateGroup => Int
  | .transfer _ => Int

abbrev probeSignature : Signature :=
  ⟨ProbeRequest, ProbeRequest.Answer⟩

abbrev Probe (α : Type) : Type :=
  Program probeSignature α

def ask (item : ProbeRequest) : Probe item.Answer :=
  Program.request (S := probeSignature) item

/-- Transfers during a probe. -/
def transferring {α : Type} : Hid α → Probe α
  | .done value => .done value
  | .ask request next =>
      .ask (.transfer request) fun answer => transferring (next answer)

theorem transferring_bind {α β : Type} (program : Hid α)
    (rest : α → Hid β) :
    transferring (program >>= rest) =
      transferring program >>= fun value => transferring (rest value) := by
  change transferring (program.bind rest) = _
  induction program with
  | done value =>
      rfl
  | ask request next inductionHypothesis =>
      exact congrArg (Program.ask _) (funext inductionHypothesis)

/-- A transfer and nothing else. -/
def IsTransfer (item : ProbeRequest) : Prop :=
  ∃ request, item = .transfer request

theorem transferring_asks {α : Type} (program : Hid α) :
    (transferring program).Asks IsTransfer := by
  induction program with
  | done value =>
      trivial
  | ask request next inductionHypothesis =>
      exact ⟨⟨request, rfl⟩, inductionHypothesis⟩

/-! ## Starting and stopping -/

def stopHw : Probe Unit := do
  let _ ← ask (.hidHwPower false)
  ask .hidHwClose
  ask .hidHwStop

def startHw : Probe Int := do
  let result ← ask .hidHwStart
  if result ≠ 0 then
    stopHw
    return result
  else
    let _ ← ask (.hidHwPower true)
    let result ← ask .hidHwOpen
    if result ≠ 0 then
      stopHw
      return result
    else
      return 0

/-! ## Outcomes -/

/-- What the steps of a probe return.  A transfer has an outcome by its place
in the order of the transfers. -/
structure Outcomes where
  parse : Int
  start : Int
  opening : Int
  allocated : Allocation → Bool
  registered : McLedId → Int
  classRegistered : ClassLedId → Int
  group : Int
  transferred : Nat → Int

/-- The state is the number of the transfers made. -/
def Outcomes.environment (outcomes : Outcomes) :
    Environment probeSignature Nat
  | .hidParse, count => (outcomes.parse, count)
  | .hidHwStart, count => (outcomes.start, count)
  | .hidHwPower _, count => (0, count)
  | .hidHwOpen, count => (outcomes.opening, count)
  | .hidHwClose, count => ((), count)
  | .hidHwStop, count => ((), count)
  | .devmKzalloc allocation, count => (outcomes.allocated allocation, count)
  | .devmLedRegister led, count => (outcomes.registered led, count)
  | .devmLedUnregister _, count => ((), count)
  | .ledClassdevRegister led, count => (outcomes.classRegistered led, count)
  | .ledClassdevUnregister _, count => ((), count)
  | .sysfsCreateGroup, count => (outcomes.group, count)
  | .transfer _, count => (outcomes.transferred count, count + 1)

/-! ## Counts -/

def succeeded (answer : Int) : Nat :=
  if answer = 0 then 1 else 0

abbrev ProbeWeight : Type :=
  Event probeSignature → Nat

/-- Successful starts. -/
def starts : ProbeWeight
  | ⟨.hidHwStart, answer⟩ => succeeded answer
  | _ => 0

def stops : ProbeWeight
  | ⟨.hidHwStop, _⟩ => 1
  | _ => 0

/-- Successful opens. -/
def opens : ProbeWeight
  | ⟨.hidHwOpen, answer⟩ => succeeded answer
  | _ => 0

def closes : ProbeWeight
  | ⟨.hidHwClose, _⟩ => 1
  | _ => 0

/-- Successful registrations of a LED. -/
def registrations (led : McLedId) : ProbeWeight
  | ⟨.devmLedRegister other, answer⟩ =>
      if other = led then succeeded answer else 0
  | _ => 0

def unregistrations (led : McLedId) : ProbeWeight
  | ⟨.devmLedUnregister other, _⟩ => if other = led then 1 else 0
  | _ => 0

def classRegistrations (led : ClassLedId) : ProbeWeight
  | ⟨.ledClassdevRegister other, answer⟩ =>
      if other = led then succeeded answer else 0
  | _ => 0

def classUnregistrations (led : ClassLedId) : ProbeWeight
  | ⟨.ledClassdevUnregister other, _⟩ => if other = led then 1 else 0
  | _ => 0

/-- How often something happens in a program. -/
def Outcomes.count {α : Type} (outcomes : Outcomes) (weight : ProbeWeight)
    (program : Probe α) : Nat :=
  program.tally weight outcomes.environment 0

/-- What a program returns. -/
def Outcomes.result {α : Type} (outcomes : Outcomes)
    (program : Probe α) : α :=
  (program.run outcomes.environment 0).1

end TuxedoDrivers.Ite
