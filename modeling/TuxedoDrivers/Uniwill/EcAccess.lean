import Mathlib.Logic.Function.Basic
import TuxedoDrivers.Interaction.Program
import TuxedoDrivers.Uniwill.DriverState

/-!
# EC accesses of the Uniwill driver

Every operation of the driver is a program over three requests: one call of
`uniwill_read_ec_ram`, one call of `uniwill_write_ec_ram`, and one access to
the static variables.  The EC side is an arbitrary device: it may fail, ignore
writes or change between two reads.  Delays (`msleep`) and log messages have
no effect on the state and are left out.
-/

namespace TuxedoDrivers.Uniwill

open Interaction

/-! ## Requests -/

/-- What a call of `uniwill_read_ec_ram` does to the caller.  A failed call
returns `-EIO`, and `left` is what the caller's variable then holds: the byte
the back end stored there, or its earlier (possibly uninitialised) content
when there is no active interface. -/
inductive EcRead where
  | ok (data : U8)
  | fail (left : U8)
  deriving DecidableEq, Repr

namespace EcRead

def status : EcRead → Int
  | .ok _ => 0
  | .fail _ => -eio

/-- The content of the caller's variable after the call. -/
def data : EcRead → U8
  | .ok data => data
  | .fail left => left

@[simp]
theorem status_ok (data : U8) : (EcRead.ok data).status = 0 :=
  rfl

@[simp]
theorem status_fail (left : U8) : (EcRead.fail left).status = -eio :=
  rfl

@[simp]
theorem data_ok (data : U8) : (EcRead.ok data).data = data :=
  rfl

end EcRead

inductive EcWrite where
  | ok
  | fail
  deriving DecidableEq, Repr

namespace EcWrite

def status : EcWrite → Int
  | .ok => 0
  | .fail => -eio

@[simp]
theorem status_ok : EcWrite.ok.status = 0 :=
  rfl

@[simp]
theorem status_fail : EcWrite.fail.status = -eio :=
  rfl

end EcWrite

inductive UniwillRequest where
  | readEcRam (address : U16)
  | writeEcRam (address : U16) (data : U8)
  | statics (update : DriverState → DriverState)

/-- An access to the static variables answers with their values before the
update. -/
abbrev UniwillRequest.Answer : UniwillRequest → Type
  | .readEcRam _ => EcRead
  | .writeEcRam _ _ => EcWrite
  | .statics _ => DriverState

abbrev uniwillSignature : Signature :=
  ⟨UniwillRequest, UniwillRequest.Answer⟩

abbrev Driver (α : Type) : Type :=
  Program uniwillSignature α

def uniwillReadEcRam (address : U16) : Driver EcRead :=
  Program.request (S := uniwillSignature) (.readEcRam address)

def uniwillWriteEcRam (address : U16) (data : U8) : Driver EcWrite :=
  Program.request (S := uniwillSignature) (.writeEcRam address data)

/-- The static variables. -/
def getStatics : Driver DriverState :=
  Program.request (S := uniwillSignature) (.statics id)

/-- Assign to static variables. -/
def setStatics (update : DriverState → DriverState) : Driver Unit := do
  let _ ← Program.request (S := uniwillSignature) (.statics update)
  return ()

/-! ## Devices -/

/-- The EC as the driver sees it, with states `σ`. -/
structure EcDevice (σ : Type) where
  read : U16 → σ → EcRead × σ
  write : U16 → U8 → σ → EcWrite × σ

/-- The driver's variables next to the state of the EC. -/
abbrev Machine (σ : Type) : Type := DriverState × σ

def EcDevice.environment {σ : Type} (device : EcDevice σ) :
    Environment uniwillSignature (Machine σ)
  | .readEcRam address, (statics, ec) =>
      ((device.read address ec).1, statics, (device.read address ec).2)
  | .writeEcRam address data, (statics, ec) =>
      ((device.write address data ec).1, statics,
        (device.write address data ec).2)
  | .statics update, (statics, ec) =>
      (statics, update statics, ec)

/-- Result and final state of an operation of the driver. -/
def EcDevice.run {σ α : Type} (device : EcDevice σ)
    (program : Driver α) (machine : Machine σ) : α × Machine σ :=
  program.run device.environment machine

/-! ## Traces of EC accesses -/

/-- One EC access with its outcome. -/
inductive EcEvent where
  | read (address : U16) (outcome : EcRead)
  | write (address : U16) (data : U8) (outcome : EcWrite)
  deriving DecidableEq, Repr

def EcEvent.address : EcEvent → U16
  | .read address _ => address
  | .write address _ _ => address

def ecEvent? : Event uniwillSignature → Option EcEvent
  | ⟨.readEcRam address, outcome⟩ => some (.read address outcome)
  | ⟨.writeEcRam address data, outcome⟩ =>
      some (.write address data outcome)
  | ⟨.statics _, _⟩ => none

/-- The EC accesses of a run, in order. -/
def EcDevice.trace {σ α : Type} (device : EcDevice σ)
    (program : Driver α) (machine : Machine σ) : List EcEvent :=
  (program.trace device.environment machine).filterMap ecEvent?

section Rules

variable {σ α β : Type} (device : EcDevice σ) (machine : Machine σ)

@[simp]
theorem run_pure (value : α) :
    device.run (pure value) machine = (value, machine) :=
  (rfl)

@[simp]
theorem run_bind (program : Driver α) (rest : α → Driver β) :
    device.run (program >>= rest) machine =
      device.run (rest (device.run program machine).1)
        (device.run program machine).2 :=
  Program.run_bind device.environment program rest machine

@[simp]
theorem run_map (function : α → β) (program : Driver α) :
    device.run (function <$> program) machine =
      (function (device.run program machine).1,
        (device.run program machine).2) :=
  Program.run_map device.environment function program machine

@[simp]
theorem run_ite (condition : Prop) [Decidable condition]
    (first second : Driver α) :
    device.run (if condition then first else second) machine =
      if condition then device.run first machine
      else device.run second machine :=
  Program.run_ite device.environment condition first second machine

@[simp]
theorem run_uniwillReadEcRam (address : U16) :
    device.run (uniwillReadEcRam address) machine =
      ((device.read address machine.2).1, machine.1,
        (device.read address machine.2).2) :=
  (rfl)

@[simp]
theorem run_uniwillWriteEcRam (address : U16) (data : U8) :
    device.run (uniwillWriteEcRam address data) machine =
      ((device.write address data machine.2).1, machine.1,
        (device.write address data machine.2).2) :=
  (rfl)

@[simp]
theorem run_getStatics :
    device.run getStatics machine = (machine.1, machine) :=
  (rfl)

@[simp]
theorem run_setStatics (update : DriverState → DriverState) :
    device.run (setStatics update) machine =
      ((), update machine.1, machine.2) :=
  (rfl)

@[simp]
theorem trace_pure (value : α) :
    device.trace (pure value : Driver α) machine = [] :=
  (rfl)

@[simp]
theorem trace_bind (program : Driver α) (rest : α → Driver β) :
    device.trace (program >>= rest) machine =
      device.trace program machine ++
        device.trace (rest (device.run program machine).1)
          (device.run program machine).2 := by
  simp only [EcDevice.trace, EcDevice.run, Program.trace_bind,
    List.filterMap_append]

@[simp]
theorem trace_map (function : α → β) (program : Driver α) :
    device.trace (function <$> program) machine =
      device.trace program machine := by
  rw [map_eq_pure_bind, trace_bind, trace_pure, List.append_nil]

@[simp]
theorem trace_ite (condition : Prop) [Decidable condition]
    (first second : Driver α) :
    device.trace (if condition then first else second) machine =
      if condition then device.trace first machine
      else device.trace second machine := by
  split <;> rfl

@[simp]
theorem trace_uniwillReadEcRam (address : U16) :
    device.trace (uniwillReadEcRam address) machine =
      [.read address (device.read address machine.2).1] :=
  (rfl)

@[simp]
theorem trace_uniwillWriteEcRam (address : U16) (data : U8) :
    device.trace (uniwillWriteEcRam address data) machine =
      [.write address data (device.write address data machine.2).1] :=
  (rfl)

@[simp]
theorem trace_getStatics : device.trace getStatics machine = [] :=
  (rfl)

@[simp]
theorem trace_setStatics (update : DriverState → DriverState) :
    device.trace (setStatics update) machine = [] :=
  (rfl)

end Rules

/-- The request an access answers. -/
def EcEvent.request : EcEvent → UniwillRequest
  | .read address _ => .readEcRam address
  | .write address data _ => .writeEcRam address data

private theorem ecEvent?_eq_some {event : Event uniwillSignature}
    {access : EcEvent} (same : ecEvent? event = some access) :
    access.request = event.request := by
  rcases event with ⟨request, answer⟩
  cases request with
  | readEcRam address =>
      cases same
      rfl
  | writeEcRam address data =>
      cases same
      rfl
  | statics update =>
      cases same

/-- Every EC access of a run is one the program can ask for. -/
theorem request_of_mem_trace
    {σ α : Type} {device : EcDevice σ} {machine : Machine σ}
    {allowed : UniwillRequest → Prop} {program : Driver α}
    (asks : program.Asks allowed) {access : EcEvent}
    (member : access ∈ device.trace program machine) :
    allowed access.request := by
  obtain ⟨event, eventMember, same⟩ := List.mem_filterMap.mp member
  rw [ecEvent?_eq_some same]
  exact asks.of_mem_trace eventMember

/-! ## Programs that only access the EC -/

/-- Any read, the allowed writes, and no access to the static variables. -/
def EcRequest (allowed : U16 → U8 → Prop) : UniwillRequest → Prop
  | .readEcRam _ => True
  | .writeEcRam address data => allowed address data
  | .statics _ => False

theorem EcRequest.mono {allowed wider : U16 → U8 → Prop}
    (implies : ∀ address data, allowed address data → wider address data)
    (request : UniwillRequest) (permitted : EcRequest allowed request) :
    EcRequest wider request := by
  cases request with
  | readEcRam address =>
      trivial
  | writeEcRam address data =>
      exact implies address data permitted
  | statics update =>
      exact permitted

section EcRequests

variable {σ α : Type} {device : EcDevice σ}
  {allowed : U16 → U8 → Prop} {program : Driver α}

theorem asks_uniwillReadEcRam (address : U16) :
    (uniwillReadEcRam address).Asks (EcRequest allowed) :=
  ⟨trivial, fun _ => trivial⟩

theorem asks_uniwillWriteEcRam {address : U16} {data : U8}
    (permitted : allowed address data) :
    (uniwillWriteEcRam address data).Asks (EcRequest allowed) :=
  ⟨permitted, fun _ => trivial⟩

theorem statics_of_ecRequests (device : EcDevice σ)
    (asks : program.Asks (EcRequest allowed)) (machine : Machine σ) :
    (device.run program machine).2.1 = machine.1 := by
  refine
    asks.run_preserves device.environment
      (fun later : Machine σ => later.1 = machine.1) ?_ rfl
  intro request later permitted unchanged
  cases request with
  | readEcRam address =>
      exact unchanged
  | writeEcRam address data =>
      exact unchanged
  | statics update =>
      exact permitted.elim

theorem allowed_of_write_mem_trace
    (asks : program.Asks (EcRequest allowed)) {machine : Machine σ}
    {address : U16} {data : U8} {outcome : EcWrite}
    (member : .write address data outcome ∈ device.trace program machine) :
    allowed address data :=
  request_of_mem_trace asks member

end EcRequests

/-- Accesses of registers in a set, and none of the static variables. -/
def AccessWithin (registers : U16 → Prop) : UniwillRequest → Prop
  | .readEcRam address => registers address
  | .writeEcRam address _ => registers address
  | .statics _ => False

theorem address_of_mem_trace
    {σ α : Type} {device : EcDevice σ} {machine : Machine σ}
    {registers : U16 → Prop} {program : Driver α}
    (asks : program.Asks (AccessWithin registers)) {event : EcEvent}
    (member : event ∈ device.trace program machine) :
    registers event.address := by
  have permitted := request_of_mem_trace asks member
  cases event with
  | read address outcome =>
      exact permitted
  | write address data outcome =>
      exact permitted

/-! ## Retries -/

/-- The attempts of `uniwill_read_ec_ram_with_retry`; `last` is what the
attempt before left in `status` and `*data`. -/
def readAttempts (address : U16) : Nat → EcRead → Driver EcRead
  | 0, last => pure last
  | retries + 1, _ => do
      let reply ← uniwillReadEcRam address
      if reply.status ≠ 0 then
        readAttempts address retries reply
      else
        pure reply

/-- `uniwill_read_ec_ram_with_retry`.  With no attempt at all the C function
returns an uninitialised status; its callers pass 3. -/
def uniwillReadEcRamWithRetry (address : U16) (retries : Nat) :
    Driver EcRead :=
  readAttempts address retries (.fail 0)

/-- The attempts of `uniwill_write_ec_ram_with_retry`; `status` is what the
attempt before left in the variable of this name. -/
def writeAttempts (address : U16) (data : U8) : Nat → Int → Driver Int
  | 0, status => pure status
  | retries + 1, _ => do
      let written ← uniwillWriteEcRam address data
      if written.status ≠ 0 then
        writeAttempts address data retries written.status
      else
        let control ← uniwillReadEcRam address
        if control.status ≠ 0 ∨ data ≠ control.data then
          writeAttempts address data retries control.status
        else
          pure control.status

/-- `uniwill_write_ec_ram_with_retry`, with the same remark on the initial
status. -/
def uniwillWriteEcRamWithRetry (address : U16) (data : U8)
    (retries : Nat) : Driver Int :=
  writeAttempts address data retries (-eio)

/-- The requests of a verified write: writes of this byte to this address and
reads of this address. -/
def VerifiedWriteRequest (address : U16) (data : U8) :
    UniwillRequest → Prop
  | .readEcRam read => read = address
  | .writeEcRam written byte => written = address ∧ byte = data
  | .statics _ => False

theorem writeAttempts_asks (address : U16) (data : U8) (retries : Nat)
    (status : Int) :
    (writeAttempts address data retries status).Asks
      (VerifiedWriteRequest address data) := by
  induction retries generalizing status with
  | zero =>
      trivial
  | succ retries inductionHypothesis =>
      refine Program.Asks.bind ⟨⟨rfl, rfl⟩, fun _ => trivial⟩ ?_
      intro written
      refine Program.Asks.ite (fun _ => inductionHypothesis _) ?_
      intro _
      refine Program.Asks.bind ⟨rfl, fun _ => trivial⟩ ?_
      intro control
      exact
        Program.Asks.ite (fun _ => inductionHypothesis _)
          (fun _ => trivial)

theorem uniwillWriteEcRamWithRetry_asks
    (address : U16) (data : U8) (retries : Nat) :
    (uniwillWriteEcRamWithRetry address data retries).Asks
      (VerifiedWriteRequest address data) :=
  writeAttempts_asks address data retries (-eio)

/-- A verified write with at least one attempt does write. -/
theorem uniwillWriteEcRamWithRetry_writes
    {σ : Type} (device : EcDevice σ) (address : U16) (data : U8)
    (retries : Nat) (machine : Machine σ) :
    ∃ outcome,
      .write address data outcome ∈
        device.trace (uniwillWriteEcRamWithRetry address data (retries + 1))
          machine := by
  refine ⟨(device.write address data machine.2).1, ?_⟩
  simp [uniwillWriteEcRamWithRetry, writeAttempts]

theorem uniwillWriteEcRamWithRetry_within
    {registers : U16 → Prop} {address : U16} (within : registers address)
    (data : U8) (retries : Nat) :
    (uniwillWriteEcRamWithRetry address data retries).Asks
      (AccessWithin registers) := by
  refine
    (uniwillWriteEcRamWithRetry_asks address data retries).mono ?_
  intro request verifies
  cases request with
  | readEcRam read =>
      cases verifies
      exact within
  | writeEcRam written byte =>
      cases verifies.1
      exact within
  | statics update =>
      exact verifies

theorem uniwillReadEcRamWithRetry_within
    {registers : U16 → Prop} {address : U16} (within : registers address)
    (retries : Nat) :
    (uniwillReadEcRamWithRetry address retries).Asks
      (AccessWithin registers) := by
  unfold uniwillReadEcRamWithRetry
  generalize EcRead.fail 0 = last
  induction retries generalizing last with
  | zero =>
      trivial
  | succ retries inductionHypothesis =>
      refine Program.Asks.bind ⟨within, fun _ => trivial⟩ ?_
      intro reply
      exact
        Program.Asks.ite (fun _ => inductionHypothesis _)
          (fun _ => trivial)

/-- What the runs of a loop body preserve, and what holds of every access of
one run, hold for the whole loop. -/
theorem forM_rule
    {σ ι : Type} {device : EcDevice σ}
    (invariant : Machine σ → Prop) (emits : EcEvent → Prop)
    {body : ι → Driver PUnit}
    (step : ∀ item machine, invariant machine →
      invariant (device.run (body item) machine).2 ∧
        ∀ event ∈ device.trace (body item) machine, emits event)
    (items : List ι) {machine : Machine σ} (initially : invariant machine) :
    invariant (device.run (items.forM body) machine).2 ∧
      ∀ event ∈ device.trace (items.forM body) machine, emits event := by
  induction items generalizing machine with
  | nil =>
      exact ⟨initially, fun event member => absurd member (by simp)⟩
  | cons head tail inductionHypothesis =>
      obtain ⟨afterHead, headEvents⟩ := step head machine initially
      obtain ⟨afterTail, tailEvents⟩ := inductionHypothesis afterHead
      simp only [List.forM, run_bind, trace_bind]
      refine ⟨afterTail, fun event member => ?_⟩
      rcases List.mem_append.mp member with inHead | inTail
      · exact headEvents event inHead
      · exact tailEvents event inTail

/-! ## Two particular devices -/

/-- Content of the EC RAM. -/
abbrev Ram := U16 → U8

/-- An EC whose accesses all succeed. -/
def reliableEc : EcDevice Ram where
  read address ram := (.ok (ram address), ram)
  write address data ram := (.ok, Function.update ram address data)

@[simp]
theorem reliableEc_read (address : U16) (ram : Ram) :
    reliableEc.read address ram = (.ok (ram address), ram) :=
  rfl

@[simp]
theorem reliableEc_write (address : U16) (data : U8) (ram : Ram) :
    reliableEc.write address data ram =
      (.ok, Function.update ram address data) :=
  rfl

/-- How one access to a faulty EC goes.  A write may take effect although it
reports a failure, and may be ignored although it reports success. -/
structure AccessOutcome where
  succeeds : Bool
  takesEffect : Bool
  left : U8
  deriving DecidableEq, Repr

/-- What a read of this content leaves in the variable of the caller. -/
def AccessOutcome.shown (outcome : AccessOutcome) (content : U8) : U8 :=
  if outcome.succeeds = true then content else outcome.left

/-- RAM together with the outcomes of the next accesses; after them every
access succeeds. -/
structure FaultyRam where
  ram : Ram
  outcomes : List AccessOutcome

namespace FaultyRam

def next (state : FaultyRam) : AccessOutcome :=
  state.outcomes.headD ⟨true, true, 0⟩

end FaultyRam

def faultyEc : EcDevice FaultyRam where
  read address state :=
    (if state.next.succeeds then .ok (state.ram address)
      else .fail state.next.left,
      { state with outcomes := state.outcomes.tail })
  write address data state :=
    (if state.next.succeeds then .ok else .fail,
      { ram :=
          if state.next.takesEffect then
            Function.update state.ram address data
          else state.ram
        outcomes := state.outcomes.tail })

theorem asks_uniwillWriteEcRamWithRetry
    {allowed : U16 → U8 → Prop} {address : U16} {data : U8}
    (permitted : allowed address data) (retries : Nat) :
    (uniwillWriteEcRamWithRetry address data retries).Asks
      (EcRequest allowed) := by
  refine
    (uniwillWriteEcRamWithRetry_asks address data retries).mono ?_
  intro request verifies
  cases request with
  | readEcRam read =>
      trivial
  | writeEcRam written byte =>
      obtain ⟨rfl, rfl⟩ := verifies
      exact permitted
  | statics update =>
      exact verifies

/-- A register that no allowed write is about keeps its content. -/
theorem ram_of_ecRequests
    {α : Type} {allowed : U16 → U8 → Prop} {program : Driver α}
    (asks : program.Asks (EcRequest allowed)) (machine : Machine Ram)
    {address : U16} (avoided : ∀ data, ¬ allowed address data) :
    (reliableEc.run program machine).2.2 address = machine.2 address := by
  refine
    asks.run_preserves reliableEc.environment
      (fun later : Machine Ram =>
        later.2 address = machine.2 address) ?_ rfl
  intro request later permitted unchanged
  cases request with
  | readEcRam read =>
      exact unchanged
  | writeEcRam written data =>
      have distinct : address ≠ written := by
        rintro rfl
        exact avoided data permitted
      exact (Function.update_of_ne distinct data later.2).trans unchanged
  | statics update =>
      exact permitted.elim

/-- On a reliable EC a verified write needs one attempt. -/
@[simp]
theorem run_uniwillWriteEcRamWithRetry_reliable
    (address : U16) (data : U8) (retries : Nat)
    (machine : Machine Ram) :
    reliableEc.run (uniwillWriteEcRamWithRetry address data (retries + 1))
        machine =
      (0, machine.1, Function.update machine.2 address data) := by
  simp [uniwillWriteEcRamWithRetry, writeAttempts]

end TuxedoDrivers.Uniwill
