import Mathlib.Data.Nat.Find
import TuxedoDrivers.Interaction.Program
import TuxedoDrivers.Kernel

/-!
# The two ways to the EC RAM

`uniwill_wmi.c` reads and writes the EC RAM by a WMI method, or directly by
the mailbox registers of the EC.  Both ways are modelled down to the calls
they make: evaluations of the method, `ec_read` and `ec_write`.  What the
firmware answers is arbitrary here, and so is the content of the local array
that receives the result of the method.

The main results say exactly when a direct access reports its completion as
it should, and exactly when a read that reports success delivers a byte of
the firmware.
-/

namespace TuxedoDrivers.Uniwill

open Interaction

/-! ## Requests -/

inductive AcpiObject where
  | integer (value : BitVec 64)
  | buffer (bytes : List U8)
  | other
  deriving DecidableEq, Repr

/-- The status of `wmi_evaluate_method` and the object it returned, if
any. -/
structure WmiReply where
  succeeds : Bool
  object : Option AcpiObject
  deriving DecidableEq, Repr

inductive BackendRequest where
  | evaluateMethod (input : Vector U8 8)
  | ecRead (register : U8)
  | ecWrite (register value : U8)
  /-- What a new local array of ten `u32` holds. -/
  | localArray
  /-- The module parameter `ec_direct_io`. -/
  | uniwillEcDirect

/-- A failed `ec_read` answers with what the variable held before. -/
abbrev BackendRequest.Answer : BackendRequest → Type
  | .evaluateMethod _ => WmiReply
  | .ecRead _ => U8
  | .ecWrite _ _ => Unit
  | .localArray => Vector U8 40
  | .uniwillEcDirect => Bool

abbrev backendSignature : Signature :=
  ⟨BackendRequest, BackendRequest.Answer⟩

abbrev Backend (α : Type) : Type :=
  Program backendSignature α

def wmiEvaluateMethod (input : Vector U8 8) : Backend WmiReply :=
  Program.request (S := backendSignature) (.evaluateMethod input)

def ecRead (register : U8) : Backend U8 :=
  Program.request (S := backendSignature) (.ecRead register)

def ecWrite (register value : U8) : Backend Unit :=
  Program.request (S := backendSignature) (.ecWrite register value)

def localArray : Backend (Vector U8 40) :=
  Program.request (S := backendSignature) .localArray

def getUniwillEcDirect : Backend Bool :=
  Program.request (S := backendSignature) .uniwillEcDirect

/-! ## Bytes and words -/

/-- A word from its bytes, the lowest first. -/
def dwordOf (byte0 byte1 byte2 byte3 : U8) : U32 :=
  byte3 ++ byte2 ++ byte1 ++ byte0

def byteOf (dword : U32) (index : Nat) : U8 :=
  dword.extractLsb' (8 * index) 8

def addrLow (address : U16) : U8 := address.setWidth 8

def addrHigh (address : U16) : U8 := (address >>> 8).setWidth 8

/-! ## The WMI method -/

/-- `memcpy` into an array; `none` when it writes beyond the end. -/
def memcpy {n : Nat} (array : Vector U8 n) (bytes : List U8) :
    Option (Vector U8 n) :=
  if bytes.length ≤ n then
    some (Vector.ofFn fun i => bytes.getD i.val (array.get i))
  else none

/-- The eight bytes that the firmware gets: the buffer is larger, but its
length is given as the size of a pointer. -/
def wmiArg (function : U8) (arg : U32) : Vector U8 8 :=
  #v[byteOf arg 0, byteOf arg 1, byteOf arg 2, byteOf arg 3, 0, function,
    0, 0]

/-- What the method leaves in the array of the caller. -/
def WmiReply.store (reply : WmiReply) (returnBuffer : Vector U8 40) :
    Option (Vector U8 40) :=
  match reply.object with
  | some (.buffer bytes) => memcpy returnBuffer bytes
  | _ => some returnBuffer

/-- `uw_wmi_ec_evaluate`: the result and the array of the caller, or `none`
when the array is overrun. -/
def uwWmiEcEvaluate (function : U8) (arg : U32)
    (returnBuffer : Vector U8 40) :
    Backend (Option (Int × Vector U8 40)) := do
  let reply ← wmiEvaluateMethod (wmiArg function arg)
  match reply.store returnBuffer with
  | none => return none
  | some returnBuffer =>
      return some (if reply.succeeds = true then 0 else -eio, returnBuffer)

def firstDword (data : Vector U8 40) : U32 :=
  dwordOf data[0] data[1] data[2] data[3]

/-- The check of the result for the error marker. -/
def checkMarker (evaluated : Option (Int × Vector U8 40)) :
    Option (Int × U32) :=
  evaluated.map fun result =>
    (if firstDword result.2 = 0xfefefefe then -eio else result.1,
      firstDword result.2)

def uwEcReadAddrWmi (low high : U8) : Backend (Option (Int × U32)) := do
  let uwData ← localArray
  let arg : U32 := (high.setWidth 32 <<< 8) ||| low.setWidth 32
  let evaluated ← uwWmiEcEvaluate 1 arg uwData
  return checkMarker evaluated

def uwEcWriteAddrWmi (low high dataLow dataHigh : U8) :
    Backend (Option (Int × U32)) := do
  let uwData ← localArray
  let arg : U32 :=
    (dataHigh.setWidth 32 <<< 24) ||| (dataLow.setWidth 32 <<< 16) |||
      (high.setWidth 32 <<< 8) ||| low.setWidth 32
  let evaluated ← uwWmiEcEvaluate 0 arg uwData
  return checkMarker evaluated

/-! ## The mailbox -/

abbrev uniwillEcRegLdat : U8 := 0x8a
abbrev uniwillEcRegHdat : U8 := 0x8b
abbrev uniwillEcRegFlags : U8 := 0x8c
abbrev uniwillEcRegCmdl : U8 := 0x8d
abbrev uniwillEcRegCmdh : U8 := 0x8e
abbrev uniwillEcRflg : U8 := 1 <<< 0
abbrev uniwillEcWflg : U8 := 1 <<< 1
abbrev uniwillEcBflg : U8 := 1 <<< 2
abbrev uniwillEcDrdy : U8 := 1 <<< 7
abbrev uwEcBusyWaitCycles : Nat := 30

/-- An access by the mailbox. -/
inductive DirectAccess where
  | read (low high : U8)
  | write (low high dataLow dataHigh : U8)
  deriving DecidableEq, Repr

/-- The request flag of the access. -/
def DirectAccess.flag : DirectAccess → U8
  | .read _ _ => uniwillEcRflg
  | .write _ _ _ _ => uniwillEcWflg

/-- The registers that describe the access, as they are written. -/
def DirectAccess.arguments : DirectAccess → List (U8 × U8)
  | .read low high => [(uniwillEcRegLdat, low), (uniwillEcRegHdat, high)]
  | .write low high dataLow dataHigh =>
      [ (uniwillEcRegLdat, low), (uniwillEcRegHdat, high),
        (uniwillEcRegCmdl, dataLow), (uniwillEcRegCmdh, dataHigh) ]

/-- The part of both direct accesses before the wait. -/
def startAccess (access : DirectAccess) : Backend Unit := do
  let flags ← ecRead uniwillEcRegFlags
  let flags := flags ||| uniwillEcBflg
  ecWrite uniwillEcRegFlags flags
  access.arguments.forM fun argument => ecWrite argument.1 argument.2
  ecWrite uniwillEcRegFlags ((flags &&& ~~~uniwillEcDrdy) ||| access.flag)

/-- The loop that waits for the ready flag: what is left of `count`. -/
def waitReady : Nat → Backend Nat
  | 0 => pure 0
  | count + 1 => do
      let tmp ← ecRead uniwillEcRegFlags
      if tmp &&& uniwillEcDrdy ≠ 0 then
        pure count
      else
        waitReady count

/-- The output of an access that did not time out; a write replicates the
output of the WMI method. -/
def accessOutput : DirectAccess → Backend U32
  | .read _ _ => do
      let dataLow ← ecRead uniwillEcRegCmdl
      let dataHigh ← ecRead uniwillEcRegCmdh
      return dwordOf dataLow dataHigh 0 0
  | .write low high dataLow dataHigh =>
      return dwordOf low high dataLow dataHigh

/-- The part of both direct accesses after the wait. -/
def finishAccess (access : DirectAccess) (count : Nat) :
    Backend (Int × U32) := do
  if count ≠ 0 then
    let output ← accessOutput access
    ecWrite uniwillEcRegFlags 0x00
    return (0, output)
  else
    ecWrite uniwillEcRegFlags 0x00
    return (-eio, 0xfefefefe)

/-- `uw_ec_read_addr_direct` and `uw_ec_write_addr_direct`. -/
def directAccess (access : DirectAccess) : Backend (Int × U32) := do
  startAccess access
  let count ← waitReady uwEcBusyWaitCycles
  finishAccess access count

def uwEcReadAddrDirect (low high : U8) : Backend (Int × U32) :=
  directAccess (.read low high)

def uwEcWriteAddrDirect (low high dataLow dataHigh : U8) :
    Backend (Int × U32) :=
  directAccess (.write low high dataLow dataHigh)

/-! ## The choice between the two -/

/-- `uw_wmi_read_ec_ram`: the result and `*data`. -/
def uwWmiReadEcRam (address : U16) : Backend (Option (Int × U8)) := do
  let direct ← getUniwillEcDirect
  if direct = true then
    let output ← uwEcReadAddrDirect (addrLow address) (addrHigh address)
    return some (output.1, byteOf output.2 0)
  else
    let output ← uwEcReadAddrWmi (addrLow address) (addrHigh address)
    return output.map fun output => (output.1, byteOf output.2 0)

/-- `uw_wmi_write_ec_ram`. -/
def uwWmiWriteEcRam (address : U16) (data : U8) :
    Backend (Option Int) := do
  let direct ← getUniwillEcDirect
  if direct = true then
    let output ←
      uwEcWriteAddrDirect (addrLow address) (addrHigh address) data 0x00
    return some output.1
  else
    let output ←
      uwEcWriteAddrWmi (addrLow address) (addrHigh address) data 0x00
    return output.map Prod.fst

/-! ## Firmware -/

/-- The firmware and the EC as the back ends see them, with states `σ`. -/
structure Firmware (σ : Type) where
  evaluateMethod : Vector U8 8 → σ → WmiReply × σ
  ecRead : U8 → σ → U8 × σ
  ecWrite : U8 → U8 → σ → σ
  localArray : σ → Vector U8 40 × σ
  uniwillEcDirect : σ → Bool × σ

def Firmware.environment {σ : Type} (firmware : Firmware σ) :
    Environment backendSignature σ
  | .evaluateMethod input, state => firmware.evaluateMethod input state
  | .ecRead register, state => firmware.ecRead register state
  | .ecWrite register value, state =>
      ((), firmware.ecWrite register value state)
  | .localArray, state => firmware.localArray state
  | .uniwillEcDirect, state => firmware.uniwillEcDirect state

def Firmware.run {σ α : Type} (firmware : Firmware σ)
    (program : Backend α) (state : σ) : α × σ :=
  program.run firmware.environment state

section Run

variable {σ α β : Type} (firmware : Firmware σ) (state : σ)

@[simp]
theorem Firmware.run_pure (value : α) :
    firmware.run (pure value) state = (value, state) :=
  (rfl)

@[simp]
theorem Firmware.run_bind (program : Backend α) (rest : α → Backend β) :
    firmware.run (program >>= rest) state =
      firmware.run (rest (firmware.run program state).1)
        (firmware.run program state).2 :=
  Program.run_bind _ _ _ _

@[simp]
theorem Firmware.run_ite
    (condition : Prop) [Decidable condition] (first second : Backend α) :
    firmware.run (if condition then first else second) state =
      if condition then firmware.run first state
      else firmware.run second state :=
  Program.run_ite _ _ _ _ _

@[simp]
theorem Firmware.run_wmiEvaluateMethod (input : Vector U8 8) :
    firmware.run (wmiEvaluateMethod input) state =
      firmware.evaluateMethod input state :=
  (rfl)

@[simp]
theorem Firmware.run_ecRead (register : U8) :
    firmware.run (TuxedoDrivers.Uniwill.ecRead register) state =
      firmware.ecRead register state :=
  (rfl)

@[simp]
theorem Firmware.run_ecWrite (register value : U8) :
    firmware.run (TuxedoDrivers.Uniwill.ecWrite register value) state =
      ((), firmware.ecWrite register value state) :=
  (rfl)

@[simp]
theorem Firmware.run_localArray :
    firmware.run TuxedoDrivers.Uniwill.localArray state =
      firmware.localArray state :=
  (rfl)

@[simp]
theorem Firmware.run_getUniwillEcDirect :
    firmware.run getUniwillEcDirect state = firmware.uniwillEcDirect state :=
  (rfl)

end Run

/-! ## The completion of a direct access -/

section Completion

variable {σ : Type} (firmware : Firmware σ)

/-- The state after some reads of the flags register. -/
def Firmware.pollState : Nat → σ → σ
  | 0, state => state
  | polls + 1, state =>
      Firmware.pollState polls (firmware.ecRead uniwillEcRegFlags state).2

/-- The read number `poll` of the flags register, counted from 0, finds the
ready flag. -/
def Firmware.readyAt (poll : Nat) (state : σ) : Prop :=
  (firmware.ecRead uniwillEcRegFlags (firmware.pollState poll state)).1 &&&
    uniwillEcDrdy ≠ 0

instance (poll : Nat) (state : σ) : Decidable (firmware.readyAt poll state) :=
  inferInstanceAs (Decidable (_ ≠ _))

/-- The given read is the first that finds the ready flag. -/
def Firmware.firstReadyAt (poll : Nat) (state : σ) : Prop :=
  (∀ earlier < poll, ¬ firmware.readyAt earlier state) ∧
    firmware.readyAt poll state

variable {firmware} {state : σ}

theorem firstReadyAt_succ_iff {poll : Nat} :
    firmware.firstReadyAt (poll + 1) state ↔
      ¬ firmware.readyAt 0 state ∧
        firmware.firstReadyAt poll
          (firmware.ecRead uniwillEcRegFlags state).2 := by
  constructor
  · intro first
    exact
      ⟨first.1 0 poll.succ_pos,
        fun earlier before =>
          first.1 (earlier + 1) (Nat.succ_lt_succ before),
        first.2⟩
  · rintro ⟨notYet, later, ready⟩
    refine ⟨fun earlier before => ?_, ready⟩
    cases earlier with
    | zero =>
        exact notYet
    | succ earlier =>
        exact later earlier (Nat.lt_of_succ_lt_succ before)

/-- Either no read of the loop finds the ready flag, or one is the first. -/
private theorem exists_firstReadyAt_or
    (firmware : Firmware σ) (limit : Nat) (state : σ) :
    (∀ poll < limit, ¬ firmware.readyAt poll state) ∨
      ∃ poll < limit, firmware.firstReadyAt poll state := by
  by_cases seen : ∃ poll, poll < limit ∧ firmware.readyAt poll state
  · right
    refine
      ⟨Nat.find seen, (Nat.find_spec seen).1, ?_, (Nat.find_spec seen).2⟩
    intro earlier before ready
    exact
      Nat.find_min seen before
        ⟨before.trans (Nat.find_spec seen).1, ready⟩
  · left
    exact fun poll below ready => seen ⟨poll, below, ready⟩

private theorem run_waitReady_succ (count : Nat) (state : σ) :
    firmware.run (waitReady (count + 1)) state =
      if firmware.readyAt 0 state then
        (count, (firmware.ecRead uniwillEcRegFlags state).2)
      else
        firmware.run (waitReady count)
          (firmware.ecRead uniwillEcRegFlags state).2 := by
  simp only [waitReady, Firmware.run_bind, Firmware.run_ecRead,
    Firmware.run_ite, Firmware.run_pure]
  rfl

/-- The loop stops right after the first read that finds the ready flag; what
is left of the count says how late that was. -/
theorem run_waitReady_of_first
    {poll count : Nat} (below : poll < count)
    (first : firmware.firstReadyAt poll state) :
    firmware.run (waitReady count) state =
      (count - (poll + 1), firmware.pollState (poll + 1) state) := by
  induction poll generalizing count state with
  | zero =>
      obtain ⟨rest, rfl⟩ : ∃ rest, count = rest + 1 :=
        ⟨count - 1, by omega⟩
      rw [run_waitReady_succ, if_pos first.2]
      rfl
  | succ poll inductionHypothesis =>
      obtain ⟨rest, rfl⟩ : ∃ rest, count = rest + 1 :=
        ⟨count - 1, by omega⟩
      obtain ⟨notYet, later⟩ := firstReadyAt_succ_iff.mp first
      rw [run_waitReady_succ, if_neg notYet,
        inductionHypothesis (by omega) later]
      simp only [Nat.add_sub_add_right]
      rfl

theorem run_waitReady_of_never
    {count : Nat}
    (never : ∀ poll < count, ¬ firmware.readyAt poll state) :
    firmware.run (waitReady count) state =
      (0, firmware.pollState count state) := by
  induction count generalizing state with
  | zero =>
      rfl
  | succ count inductionHypothesis =>
      rw [run_waitReady_succ, if_neg (never 0 count.succ_pos)]
      exact
        inductionHypothesis fun poll below =>
          never (poll + 1) (Nat.succ_lt_succ below)

/-- A poll of the loop answered with the ready flag set. -/
def Firmware.seesReady (firmware : Firmware σ) (state : σ) : Prop :=
  ∃ flags,
    (⟨.ecRead uniwillEcRegFlags, flags⟩ : Event backendSignature) ∈
      (waitReady uwEcBusyWaitCycles).trace firmware.environment state ∧
    flags &&& uniwillEcDrdy ≠ 0

private theorem trace_waitReady_succ (count : Nat) (state : σ) :
    (waitReady (count + 1)).trace firmware.environment state =
      ⟨.ecRead uniwillEcRegFlags,
          (firmware.ecRead uniwillEcRegFlags state).1⟩ ::
        if firmware.readyAt 0 state then []
        else
          (waitReady count).trace firmware.environment
            (firmware.ecRead uniwillEcRegFlags state).2 := by
  simp only [waitReady, ecRead, Program.trace_bind, Program.trace_ite,
    Program.trace_pure]
  rfl

private theorem mem_trace_waitReady
    {count : Nat} {state : σ} :
    (∃ flags,
      (⟨.ecRead uniwillEcRegFlags, flags⟩ : Event backendSignature) ∈
        (waitReady count).trace firmware.environment state ∧
      flags &&& uniwillEcDrdy ≠ 0) ↔
      ∃ poll < count, firmware.readyAt poll state := by
  induction count generalizing state with
  | zero =>
      simp [waitReady]
  | succ count inductionHypothesis =>
      rw [trace_waitReady_succ]
      constructor
      · rintro ⟨flags, member, ready⟩
        rcases List.mem_cons.mp member with now | later
        · cases now
          exact ⟨0, count.succ_pos, ready⟩
        · split at later
          · exact absurd later List.not_mem_nil
          · obtain ⟨poll, below, found⟩ :=
              inductionHypothesis.mp ⟨flags, later, ready⟩
            exact ⟨poll + 1, Nat.succ_lt_succ below, found⟩
      · rintro ⟨poll, below, found⟩
        by_cases now : firmware.readyAt 0 state
        · exact ⟨_, List.mem_cons_self, now⟩
        · obtain ⟨earlier, rfl⟩ : ∃ earlier, poll = earlier + 1 := by
            cases poll with
            | zero =>
                exact absurd found now
            | succ earlier =>
                exact ⟨earlier, rfl⟩
          obtain ⟨flags, later, ready⟩ :=
            inductionHypothesis.mpr
              ⟨earlier, Nat.lt_of_succ_lt_succ below, found⟩
          refine ⟨flags, List.mem_cons_of_mem _ ?_, ready⟩
          rwa [if_neg now]

theorem seesReady_iff :
    firmware.seesReady state ↔
      ∃ poll < uwEcBusyWaitCycles, firmware.readyAt poll state :=
  mem_trace_waitReady

/-! ### What an access reports -/

/-- The state in which the loop begins. -/
def Firmware.requested
    (firmware : Firmware σ) (access : DirectAccess) (state : σ) : σ :=
  (firmware.run (startAccess access) state).2

/-- The ready flag decides the result, a read delivers the bytes the EC has
after it is ready, and the flags are cleared at the end. -/
structure Firmware.ReportsCompletion
    (firmware : Firmware σ) (access : DirectAccess) (state : σ) :
    Prop where
  zero_iff :
    (firmware.run (directAccess access) state).1.1 = 0 ↔
      firmware.seesReady (firmware.requested access state)
  timeout :
    ¬ firmware.seesReady (firmware.requested access state) →
      (firmware.run (directAccess access) state).1 = (-eio, 0xfefefefe)
  delivers :
    ∀ low high, access = .read low high →
      (firmware.run (directAccess access) state).1.1 = 0 →
      ∃ poll,
        firmware.firstReadyAt poll (firmware.requested access state) ∧
        let ready :=
          firmware.pollState (poll + 1) (firmware.requested access state)
        let afterLow := (firmware.ecRead uniwillEcRegCmdl ready).2
        let output := (firmware.run (directAccess access) state).1.2
        byteOf output 0 = (firmware.ecRead uniwillEcRegCmdl ready).1 ∧
          byteOf output 1 = (firmware.ecRead uniwillEcRegCmdh afterLow).1
  released :
    ((directAccess access).trace firmware.environment state).getLast? =
      some ⟨.ecWrite uniwillEcRegFlags 0x00, ()⟩

@[simp]
theorem byteOf_dwordOf_zero (byte0 byte1 byte2 byte3 : U8) :
    byteOf (dwordOf byte0 byte1 byte2 byte3) 0 = byte0 :=
  BitVec.extractLsb'_append_eq_right

theorem byteOf_dwordOf_one (byte0 byte1 byte2 byte3 : U8) :
    byteOf (dwordOf byte0 byte1 byte2 byte3) 1 = byte1 :=
  (BitVec.extractLsb'_append_eq_of_le le_rfl).trans
    BitVec.extractLsb'_append_eq_right

theorem byteOf_dwordOf_two (byte0 byte1 byte2 byte3 : U8) :
    byteOf (dwordOf byte0 byte1 byte2 byte3) 2 = byte2 :=
  (BitVec.extractLsb'_append_eq_of_le (by decide)).trans
    ((BitVec.extractLsb'_append_eq_of_le le_rfl).trans
      BitVec.extractLsb'_append_eq_right)

theorem run_directAccess (access : DirectAccess) :
    firmware.run (directAccess access) state =
      let waited :=
        firmware.run (waitReady uwEcBusyWaitCycles)
          (firmware.requested access state)
      firmware.run (finishAccess access waited.1) waited.2 := by
  simp only [directAccess, Firmware.run_bind, Firmware.requested]

theorem run_finishAccess_zero (access : DirectAccess) :
    (firmware.run (finishAccess access 0) state).1 =
      (-eio, 0xfefefefe) :=
  (rfl)

theorem run_finishAccess_of_ne_zero
    (access : DirectAccess) {count : Nat} (remains : count ≠ 0) :
    firmware.run (finishAccess access count) state =
      ((0, (firmware.run (accessOutput access) state).1),
        firmware.ecWrite uniwillEcRegFlags 0x00
          (firmware.run (accessOutput access) state).2) := by
  unfold finishAccess
  rw [if_pos remains]
  simp only [Firmware.run_bind, Firmware.run_ecWrite, Firmware.run_pure]

theorem trace_finishAccess (access : DirectAccess) (count : Nat) :
    ((finishAccess access count).trace firmware.environment state).getLast? =
      some ⟨.ecWrite uniwillEcRegFlags 0x00, ()⟩ := by
  unfold finishAccess
  split
  · simp only [Program.trace_bind, Program.trace_pure, List.append_nil,
      List.getLast?_append]
    rfl
  · rfl

/-- On every path an access ends by clearing the flags. -/
theorem trace_directAccess (access : DirectAccess) :
    ((directAccess access).trace firmware.environment state).getLast? =
      some ⟨.ecWrite uniwillEcRegFlags 0x00, ()⟩ := by
  simp only [directAccess, Program.trace_bind, List.getLast?_append,
    trace_finishAccess, Option.some_or]

theorem run_directAccess_of_first
    (access : DirectAccess) {poll : Nat} (inTime : poll + 1 < 30)
    (first :
      firmware.firstReadyAt poll (firmware.requested access state)) :
    firmware.run (directAccess access) state =
      let output :=
        firmware.run (accessOutput access)
          (firmware.pollState (poll + 1) (firmware.requested access state))
      ((0, output.1), firmware.ecWrite uniwillEcRegFlags 0x00 output.2) := by
  rw [run_directAccess]
  simp only [run_waitReady_of_first (Nat.lt_of_succ_lt inTime) first]
  exact run_finishAccess_of_ne_zero access (by omega)

/-- The loop counts down before it is left, so nothing remains of the count
when the last poll is the first to find the flag. -/
private theorem run_directAccess_of_last
    (access : DirectAccess)
    (first :
      firmware.firstReadyAt 29 (firmware.requested access state)) :
    (firmware.run (directAccess access) state).1 =
      (-eio, 0xfefefefe) := by
  rw [run_directAccess]
  simp only [run_waitReady_of_first (Nat.lt_succ_self 29) first]
  exact run_finishAccess_zero access

private theorem run_directAccess_of_never
    (access : DirectAccess)
    (never :
      ∀ poll < uwEcBusyWaitCycles,
        ¬ firmware.readyAt poll (firmware.requested access state)) :
    (firmware.run (directAccess access) state).1 =
      (-eio, 0xfefefefe) := by
  rw [run_directAccess]
  simp only [run_waitReady_of_never never]
  exact run_finishAccess_zero access

private theorem accessOutput_bytes
    (low high : U8) (ready : σ) :
    let output :=
      (firmware.run (accessOutput (.read low high)) ready).1
    byteOf output 0 = (firmware.ecRead uniwillEcRegCmdl ready).1 ∧
      byteOf output 1 =
        (firmware.ecRead uniwillEcRegCmdh
          (firmware.ecRead uniwillEcRegCmdl ready).2).1 :=
  ⟨byteOf_dwordOf_zero _ _ _ _, byteOf_dwordOf_one _ _ _ _⟩

private theorem reportsCompletion_of_first
    (access : DirectAccess) {poll : Nat} (inTime : poll + 1 < 30)
    (first :
      firmware.firstReadyAt poll (firmware.requested access state)) :
    firmware.ReportsCompletion access state := by
  have result := run_directAccess_of_first access inTime first
  have seen :
      firmware.seesReady (firmware.requested access state) :=
    seesReady_iff.mpr ⟨poll, Nat.lt_of_succ_lt inTime, first.2⟩
  refine
    ⟨⟨fun _ => seen, fun _ => by rw [result]⟩,
      fun unseen => absurd seen unseen, ?_, trace_directAccess access⟩
  rintro low high rfl -
  refine ⟨poll, first, ?_⟩
  simp only [result]
  exact accessOutput_bytes low high _

private theorem reportsCompletion_of_never
    (access : DirectAccess)
    (never :
      ∀ poll < uwEcBusyWaitCycles,
        ¬ firmware.readyAt poll (firmware.requested access state)) :
    firmware.ReportsCompletion access state := by
  have result := run_directAccess_of_never access never
  have unseen :
      ¬ firmware.seesReady (firmware.requested access state) := by
    rw [seesReady_iff]
    rintro ⟨poll, below, ready⟩
    exact never poll below ready
  have failed : (firmware.run (directAccess access) state).1.1 ≠ 0 := by
    rw [result]
    decide
  exact
    ⟨⟨fun zero => absurd zero failed, fun seen => absurd seen unseen⟩,
      fun _ => result, fun _ _ _ zero => absurd zero failed,
      trace_directAccess access⟩

/-- A direct access reports its completion correctly unless the ready flag
comes with the very last poll: that completion is taken for a timeout. -/
theorem directAccess_reportsCompletion_iff
    (firmware : Firmware σ) (access : DirectAccess) (state : σ) :
    firmware.ReportsCompletion access state ↔
      ¬ firmware.firstReadyAt 29 (firmware.requested access state) := by
  constructor
  · intro reports last
    have seen :
        firmware.seesReady (firmware.requested access state) :=
      seesReady_iff.mpr ⟨29, Nat.lt_succ_self 29, last.2⟩
    have zero := reports.zero_iff.mpr seen
    rw [run_directAccess_of_last access last] at zero
    exact absurd zero (by decide)
  · intro notLast
    rcases
      exists_firstReadyAt_or firmware uwEcBusyWaitCycles
        (firmware.requested access state) with
      never | ⟨poll, below, first⟩
    · exact reportsCompletion_of_never access never
    · have earlier : poll ≠ 29 := by
        rintro rfl
        exact notLast first
      have bound : poll < 30 := below
      exact reportsCompletion_of_first access (by omega) first

/-- Firmware whose flags register is ready at its thirty-first read only,
that is, at the thirtieth poll of an access.  Its state counts the reads. -/
def lateFirmware : Firmware Nat where
  evaluateMethod _ reads := (⟨false, none⟩, reads)
  ecRead register reads :=
    if register = uniwillEcRegFlags then
      (if reads = 30 then 0x80 else 0x00, reads + 1)
    else (0x00, reads)
  ecWrite _ _ reads := reads
  localArray reads := (Vector.replicate 40 0, reads)
  uniwillEcDirect reads := (true, reads)

private theorem not_reportsCompletion_of_timeout
    (access : DirectAccess)
    (ready :
      ∃ poll < uwEcBusyWaitCycles,
        firmware.readyAt poll (firmware.requested access state))
    (timeout : (firmware.run (directAccess access) state).1.1 = -eio) :
    ¬ firmware.ReportsCompletion access state := by
  intro reports
  have zero := reports.zero_iff.mpr (seesReady_iff.mpr ready)
  rw [timeout] at zero
  exact absurd zero (by decide)

/-- The thirtieth poll finds the flag, and both accesses time out. -/
theorem directAccess_lastPoll_timeout :
    ¬ lateFirmware.ReportsCompletion (.read 0x51 0x07) 0 ∧
      ¬ lateFirmware.ReportsCompletion (.write 0x51 0x07 0x40 0x00) 0 :=
  ⟨not_reportsCompletion_of_timeout _
      ⟨29, by decide +kernel⟩ (by decide +kernel),
    not_reportsCompletion_of_timeout _
      ⟨29, by decide +kernel⟩ (by decide +kernel)⟩

end Completion

/-! ## What a successful read by the method delivers -/

section Delivery

variable {σ : Type}

/-- The bytes of the returned object, none if it is no buffer. -/
def WmiReply.bytes (reply : WmiReply) : List U8 :=
  match reply.object with
  | some (.buffer bytes) => bytes
  | _ => []

/-- The local array and the reply that a read by the method gets. -/
def Firmware.wmiRead
    (firmware : Firmware σ) (address : U16) (state : σ) :
    Vector U8 40 × WmiReply :=
  let array := firmware.localArray (firmware.uniwillEcDirect state).2
  (array.1,
    (firmware.evaluateMethod
      (wmiArg 1
        ((addrHigh address).setWidth 32 <<< 8 |||
          (addrLow address).setWidth 32)) array.2).1)

/-- A read stays within its array, and if it returns 0, the byte it stores
is the first of a returned buffer of at least four. -/
def Firmware.DeliversFirmwareData
    (firmware : Firmware σ) (address : U16) (state : σ) : Prop :=
  match (firmware.run (uwWmiReadEcRam address) state).1 with
  | none => False
  | some (result, data) =>
      result = 0 →
        4 ≤ (firmware.wmiRead address state).2.bytes.length ∧
          (firmware.wmiRead address state).2.bytes.head? = some data

/-- The error marker stands in the first four bytes of the array, where the
returned bytes are laid over what the array held. -/
def ErrorMarker (array : Vector U8 40) (reply : WmiReply) : Prop :=
  ∀ index : Fin 4,
    reply.bytes.getD index array[index] = 0xfe

instance (array : Vector U8 40) (reply : WmiReply) :
    Decidable (ErrorMarker array reply) :=
  inferInstanceAs (Decidable (∀ _ : Fin 4, _))

private theorem append_inj {v w : Nat} {a b : BitVec v} {c d : BitVec w}
    (equal : a ++ c = b ++ d) : a = b ∧ c = d := by
  have upper :=
    congrArg (fun joined : BitVec (v + w) => joined.extractLsb' w v) equal
  have lower :=
    congrArg (fun joined : BitVec (v + w) => joined.extractLsb' 0 w) equal
  simp only [BitVec.extractLsb'_append_eq_left,
    BitVec.extractLsb'_append_eq_right] at upper lower
  exact ⟨upper, lower⟩

theorem dwordOf_inj {a0 a1 a2 a3 b0 b1 b2 b3 : U8}
    (equal : dwordOf a0 a1 a2 a3 = dwordOf b0 b1 b2 b3) :
    a0 = b0 ∧ a1 = b1 ∧ a2 = b2 ∧ a3 = b3 := by
  obtain ⟨upper, byte0⟩ := append_inj equal
  obtain ⟨high, byte1⟩ := append_inj upper
  obtain ⟨byte3, byte2⟩ := append_inj high
  exact ⟨byte0, byte1, byte2, byte3⟩

theorem store_eq_memcpy
    (reply : WmiReply) (array : Vector U8 40) :
    reply.store array = memcpy array reply.bytes := by
  have unchanged : memcpy array [] = some array := by
    simp only [memcpy, List.length_nil, Nat.zero_le, if_true,
      List.getD_nil]
    exact congrArg some (Vector.ext fun index inside => by
      simp [Vector.get])
  rcases reply with ⟨succeeds, _ | value | bytes | _⟩
  · exact unchanged.symm
  · exact unchanged.symm
  · rfl
  · exact unchanged.symm

theorem memcpy_eq_none_iff {n : Nat} (array : Vector U8 n) (bytes : List U8) :
    memcpy array bytes = none ↔ n < bytes.length := by
  simp [memcpy]

theorem memcpy_getElem
    {n : Nat} {array stored : Vector U8 n} {bytes : List U8}
    (copied : memcpy array bytes = some stored)
    {index : Nat} (inside : index < n) :
    stored[index] = bytes.getD index array[index] := by
  unfold memcpy at copied
  split at copied
  · cases copied
    simp [Vector.get]
  · cases copied

/-- What the check for the marker sees, byte by byte. -/
theorem firstDword_eq_marker_iff
    {array stored : Vector U8 40} {reply : WmiReply}
    (copied : memcpy array reply.bytes = some stored) :
    firstDword stored = 0xfefefefe ↔ ErrorMarker array reply := by
  have marker :
      (0xfefefefe : U32) = dwordOf 0xfe 0xfe 0xfe 0xfe := by
    decide
  have bytes :=
    fun (index : Fin 4) =>
      memcpy_getElem copied (index.isLt.trans (by decide : 4 < 40))
  rw [marker]
  constructor
  · intro equal
    obtain ⟨byte0, byte1, byte2, byte3⟩ := dwordOf_inj equal
    intro index
    refine (bytes index).symm.trans ?_
    match index with
    | 0 => exact byte0
    | 1 => exact byte1
    | 2 => exact byte2
    | 3 => exact byte3
  · intro all
    have each := fun index => (bytes index).trans (all index)
    exact
      congr (congr (congr (congrArg dwordOf (each 0)) (each 1)) (each 2))
        (each 3)

private theorem run_uwWmiReadEcRam_method
    (firmware : Firmware σ) (address : U16) (state : σ)
    (byMethod : (firmware.uniwillEcDirect state).1 = false) :
    (firmware.run (uwWmiReadEcRam address) state).1 =
      let (array, reply) := firmware.wmiRead address state
      (memcpy array reply.bytes).map fun stored =>
        (if firstDword stored = 0xfefefefe then -eio
          else if reply.succeeds = true then 0 else -eio,
          byteOf (firstDword stored) 0) := by
  simp only [uwWmiReadEcRam, uwEcReadAddrWmi, uwWmiEcEvaluate,
    Firmware.run_bind, Firmware.run_getUniwillEcDirect, byMethod,
    Bool.false_eq_true, if_false, Firmware.run_localArray,
    Firmware.run_wmiEvaluateMethod, store_eq_memcpy, Firmware.wmiRead,
    Firmware.run_pure]
  split
  · rename_i overrun
    rw [overrun]
    rfl
  · rename_i stored copied
    rw [copied]
    rfl

private theorem readStatus_eq_zero_iff (marker : Prop) [Decidable marker]
    (succeeds : Bool) :
    (if marker then -eio else if succeeds = true then 0 else -eio) = 0 ↔
      ¬ marker ∧ succeeds = true := by
  by_cases found : marker <;> cases succeeds <;> simp [found]

/-- A byte of the reply is delivered as soon as the reply has four. -/
theorem head?_eq_of_copied
    {array stored : Vector U8 40} {bytes : List U8}
    (copied : memcpy array bytes = some stored) (four : 4 ≤ bytes.length) :
    bytes.head? = some (byteOf (firstDword stored) 0) := by
  rw [firstDword, byteOf_dwordOf_zero,
    memcpy_getElem copied (by decide : 0 < 40)]
  cases bytes with
  | nil =>
      exact absurd four (by decide)
  | cons head tail =>
      rfl

/-- A read by the method that reports success delivers a byte of the
firmware if and only if the returned bytes fit the local array and the reply
is a failure, has four bytes, or leaves the error marker.  In every other
case the caller gets a byte the local array happened to hold. -/
theorem uwWmiReadEcRam_delivers_iff
    (firmware : Firmware σ) (address : U16) (state : σ)
    (byMethod : (firmware.uniwillEcDirect state).1 = false) :
    firmware.DeliversFirmwareData address state ↔
      (firmware.wmiRead address state).2.bytes.length ≤ 40 ∧
        ((firmware.wmiRead address state).2.succeeds = false ∨
          4 ≤ (firmware.wmiRead address state).2.bytes.length ∨
          ErrorMarker (firmware.wmiRead address state).1
            (firmware.wmiRead address state).2) := by
  unfold Firmware.DeliversFirmwareData
  rw [run_uwWmiReadEcRam_method firmware address state byMethod]
  obtain ⟨array, reply⟩ := firmware.wmiRead address state
  cases copied : memcpy array reply.bytes with
  | none =>
      have overrun := (memcpy_eq_none_iff array reply.bytes).mp copied
      simp only [copied, Option.map_none, false_iff]
      exact fun fits => absurd fits.1 (Nat.not_le.mpr overrun)
  | some stored =>
      have fits : reply.bytes.length ≤ 40 := by
        by_contra tooLong
        rw [(memcpy_eq_none_iff array reply.bytes).mpr (by omega)] at copied
        cases copied
      have marker := firstDword_eq_marker_iff copied
      simp only [copied, Option.map_some, readStatus_eq_zero_iff, marker,
        fits, true_and]
      constructor
      · intro delivers
        by_cases found : ErrorMarker array reply
        · exact Or.inr (Or.inr found)
        · cases success : reply.succeeds with
          | false =>
              exact Or.inl rfl
          | true =>
              exact Or.inr (Or.inl (delivers ⟨found, success⟩).1)
      · rintro condition ⟨notFound, success⟩
        rcases condition with failure | four | found
        · exact absurd (success.symm.trans failure) (by decide)
        · exact ⟨four, head?_eq_of_copied copied four⟩
        · exact absurd found notFound

/-- Firmware whose method answers every evaluation with one reply. -/
def replyingFirmware (reply : WmiReply) : Firmware Unit where
  evaluateMethod _ _ := (reply, ())
  ecRead _ _ := (0x00, ())
  ecWrite _ _ _ := ()
  localArray _ := (Vector.replicate 40 0x5a, ())
  uniwillEcDirect _ := (false, ())

theorem uwWmiReadEcRam_delivers_iff_fourBytes :
    (replyingFirmware
      ⟨true, some (.buffer [0x40, 0, 0, 0])⟩).DeliversFirmwareData
        0x0751 () :=
  (uwWmiReadEcRam_delivers_iff _ 0x0751 () rfl).mpr (by decide +kernel)

/-- A reply without an object is taken for a register that holds what the
local array held. -/
theorem uwWmiReadEcRam_noObject :
    ((replyingFirmware ⟨true, none⟩).run (uwWmiReadEcRam 0x0751) ()).1 =
        some (0, 0x5a) ∧
      ¬ (replyingFirmware ⟨true, none⟩).DeliversFirmwareData 0x0751 () := by
  have result :
      ((replyingFirmware ⟨true, none⟩).run (uwWmiReadEcRam 0x0751) ()).1 =
        some (0, 0x5a) := by
    decide +kernel
  refine ⟨result, ?_⟩
  unfold Firmware.DeliversFirmwareData
  rw [result]
  exact fun delivers => absurd (delivers rfl).1 (by decide)

end Delivery

end TuxedoDrivers.Uniwill
