import TuxedoDrivers.Uniwill.EcAccess
import TuxedoDrivers.Uniwill.WmiBackend

/-!
# Both back ends implement one RAM

The method and the mailbox are two protocols for one memory of 64K bytes.
What the firmware has to do in a single evaluation or a single request of the
mailbox is stated as assumptions on it.  From them every sequence of reads
and writes, whatever back end each call uses, gives the results of the memory
itself, and leaves the flags of the mailbox cleared for the next call.
-/

namespace TuxedoDrivers.Uniwill

open Interaction

/-! ## What the firmware is assumed to do -/

/-- What the firmware keeps: the RAM, and the registers that the mailbox is
made of. -/
@[ext]
structure EcView where
  ram : Ram
  mailbox : U8 → U8

namespace EcView

def flags (view : EcView) : U8 := view.mailbox uniwillEcRegFlags

/-- The address that the mailbox registers select. -/
def address (view : EcView) : U16 :=
  view.mailbox uniwillEcRegHdat ++ view.mailbox uniwillEcRegLdat

def store (view : EcView) (register value : U8) : EcView :=
  { view with mailbox := Function.update view.mailbox register value }

def requests (flags : U8) : Bool :=
  decide (flags &&& (uniwillEcRflg ||| uniwillEcWflg) ≠ 0)

/-- No request is under way: there is none, or it is ready. -/
def quiet (view : EcView) : Prop :=
  requests view.flags = false ∨ view.flags &&& uniwillEcDrdy ≠ 0

@[simp]
theorem store_flags (view : EcView) (value : U8) :
    (view.store uniwillEcRegFlags value).flags = value := by
  simp only [flags, store, Function.update_self]

theorem store_flags_of_ne
    {view : EcView} {register : U8}
    (other : register ≠ uniwillEcRegFlags) (value : U8) :
    (view.store register value).flags = view.flags := by
  simp only [flags, store, Function.update_of_ne other.symm]

theorem quiet_of_flags_eq_zero {view : EcView} (zero : view.flags = 0) :
    view.quiet := by
  left
  rw [zero]
  rfl

theorem quiet_store
    {view : EcView} {register value : U8}
    (other : register ≠ uniwillEcRegFlags) (quiet : view.quiet) :
    (view.store register value).quiet := by
  unfold EcView.quiet at quiet ⊢
  rwa [store_flags_of_ne other]

end EcView

/-- The method returned a result: a buffer with a word that is not the error
marker. -/
def WmiReply.IsResult (reply : WmiReply) (bytes : List U8) : Prop :=
  reply = ⟨true, some (.buffer bytes)⟩ ∧ 4 ≤ bytes.length ∧
    bytes.length ≤ 40 ∧ bytes.take 4 ≠ [0xfe, 0xfe, 0xfe, 0xfe]

/-- The method and the mailbox access the same RAM. -/
structure AccessesOneRam
    {σ : Type} (firmware : Firmware σ) (view : σ → EcView) : Prop where
  localArray : ∀ state, view (firmware.localArray state).2 = view state
  /-- Function 1 reads the byte at the address in bytes 0 and 1. -/
  methodReads :
    ∀ (input : Vector U8 8) state, input[5] = 1 →
      (view state).flags = 0 →
      (∃ bytes,
        (firmware.evaluateMethod input state).1.IsResult bytes ∧
          bytes.head? = some ((view state).ram (input[1] ++ input[0]))) ∧
      (view (firmware.evaluateMethod input state).2).ram =
        (view state).ram ∧
      (view (firmware.evaluateMethod input state).2).flags = 0
  /-- Function 0 writes byte 2 there. -/
  methodWrites :
    ∀ (input : Vector U8 8) state, input[5] = 0 →
      (view state).flags = 0 →
      (∃ bytes,
        (firmware.evaluateMethod input state).1.IsResult bytes) ∧
      (view (firmware.evaluateMethod input state).2).ram =
        Function.update (view state).ram (input[1] ++ input[0]) input[2] ∧
      (view (firmware.evaluateMethod input state).2).flags = 0
  registerRead :
    ∀ register state, (view state).quiet →
      (firmware.ecRead register state).1 = (view state).mailbox register ∧
      view (firmware.ecRead register state).2 = view state
  registerWrite :
    ∀ register value state, (view state).quiet →
      (register = uniwillEcRegFlags → EcView.requests value = false) →
      view (firmware.ecWrite register value state) =
        (view state).store register value
  /-- A read request is served within 29 polls, and CMDL then holds the
  byte. -/
  mailboxReads :
    ∀ value state, (view state).quiet →
      value &&& uniwillEcRflg ≠ 0 → value &&& uniwillEcWflg = 0 →
      value &&& uniwillEcDrdy = 0 →
      ∃ poll < 29,
        firmware.firstReadyAt poll
          (firmware.ecWrite uniwillEcRegFlags value state) ∧
        let ready :=
          view (firmware.pollState (poll + 1)
            (firmware.ecWrite uniwillEcRegFlags value state))
        ready.quiet ∧ ready.ram = (view state).ram ∧
          ready.mailbox uniwillEcRegCmdl =
            (view state).ram (view state).address
  /-- A write request is served within 29 polls, and the byte is then the
  one in CMDL. -/
  mailboxWrites :
    ∀ value state, (view state).quiet →
      value &&& uniwillEcWflg ≠ 0 → value &&& uniwillEcRflg = 0 →
      value &&& uniwillEcDrdy = 0 →
      ∃ poll < 29,
        firmware.firstReadyAt poll
          (firmware.ecWrite uniwillEcRegFlags value state) ∧
        let ready :=
          view (firmware.pollState (poll + 1)
            (firmware.ecWrite uniwillEcRegFlags value state))
        ready.quiet ∧
          ready.ram =
            Function.update (view state).ram (view state).address
              ((view state).mailbox uniwillEcRegCmdl)

/-! ## Calls -/

/-- A call of the interface. -/
inductive EcCall where
  | readEcRam (address : U16)
  | writeEcRam (address : U16) (data : U8)
  deriving DecidableEq, Repr

/-- The result of a call, and for a read the byte it stores. -/
inductive EcAnswer where
  | read (result : Int) (data : U8)
  | written (result : Int)
  /-- The call wrote beyond its array. -/
  | overrun
  deriving DecidableEq, Repr

/-- The call under a setting of `ec_direct_io`, the programs as they are. -/
def EcCall.program : EcCall → Backend EcAnswer
  | .readEcRam address => do
      let output ← uwWmiReadEcRam address
      return output.elim .overrun fun output => .read output.1 output.2
  | .writeEcRam address data => do
      let output ← uwWmiWriteEcRam address data
      return output.elim .overrun .written

def Firmware.withDirectIo {σ : Type}
    (firmware : Firmware σ) (direct : Bool) : Firmware σ :=
  { firmware with uniwillEcDirect := fun state => (direct, state) }

/-- A setting of `ec_direct_io` and the call made under it. -/
abbrev callSignature : Signature :=
  ⟨Bool × EcCall, fun _ => EcAnswer⟩

def Firmware.calls {σ : Type} (firmware : Firmware σ) :
    Environment callSignature σ
  | (direct, call), state =>
      (firmware.withDirectIo direct).run call.program state

/-- The memory by itself. -/
def ramCalls : Environment callSignature Ram
  | (_, .readEcRam address), ram => (.read 0 (ram address), ram)
  | (_, .writeEcRam address data), ram =>
      (.written 0, Function.update ram address data)

/-- The calls one after the other, with their answers. -/
def callSequence (calls : List (Bool × EcCall)) :
    Program callSignature (List EcAnswer) :=
  calls.mapM fun call => Program.request (S := callSignature) call

/-! ## Addresses and argument bytes -/

@[simp]
theorem addrHigh_append_addrLow (address : U16) :
    addrHigh address ++ addrLow address = address := by
  apply BitVec.eq_of_getLsbD_eq
  intro index below
  simp only [addrHigh, addrLow, BitVec.getLsbD_append,
    BitVec.getLsbD_setWidth, BitVec.getLsbD_ushiftRight]
  grind

/-- The argument of a write packs four bytes. -/
theorem joined_eq_dwordOf (low high dataLow dataHigh : U8) :
    (dataHigh.setWidth 32 <<< 24) ||| (dataLow.setWidth 32 <<< 16) |||
        (high.setWidth 32 <<< 8) ||| low.setWidth 32 =
      dwordOf low high dataLow dataHigh := by
  apply BitVec.eq_of_getLsbD_eq
  intro index below
  simp only [dwordOf, BitVec.getLsbD_append, BitVec.getLsbD_or,
    BitVec.getLsbD_shiftLeft, BitVec.getLsbD_setWidth]
  grind

theorem joinedAddress_eq_dwordOf (low high : U8) :
    (high.setWidth 32 <<< 8) ||| low.setWidth 32 = dwordOf low high 0 0 := by
  simpa using joined_eq_dwordOf low high 0 0

/-- The bytes of the input that the method reads. -/
private theorem wmiArg_dwordOf
    (function low high dataLow dataHigh : U8) :
    let input := wmiArg function (dwordOf low high dataLow dataHigh)
    input[0] = low ∧ input[1] = high ∧ input[2] = dataLow ∧
      input[5] = function :=
  ⟨byteOf_dwordOf_zero low high dataLow dataHigh,
    byteOf_dwordOf_one low high dataLow dataHigh,
    byteOf_dwordOf_two low high dataLow dataHigh, rfl⟩

/-! ## A call by the method -/

section Calls

variable {σ : Type} {firmware : Firmware σ} {view : σ → EcView}

private theorem take_four_of_errorMarker
    {bytes : List U8} (four : 4 ≤ bytes.length) {array : Vector U8 40}
    (marker : ErrorMarker array ⟨true, some (.buffer bytes)⟩) :
    bytes.take 4 = [0xfe, 0xfe, 0xfe, 0xfe] := by
  match bytes, four with
  | byte0 :: byte1 :: byte2 :: byte3 :: rest, _ =>
      have first : byte0 = 0xfe := marker 0
      have second : byte1 = 0xfe := marker 1
      have third : byte2 = 0xfe := marker 2
      have fourth : byte3 = 0xfe := marker 3
      rw [first, second, third, fourth]
      rfl

/-- A result of the method reaches the caller whole, whatever the array held
before. -/
theorem run_uwWmiEcEvaluate_of_result
    {function : U8} {arg : U32} {state : σ} {bytes : List U8}
    (result :
      (firmware.evaluateMethod (wmiArg function arg) state).1.IsResult bytes)
    (array : Vector U8 40) :
    ∃ stored,
      firmware.run (uwWmiEcEvaluate function arg array) state =
          (some (0, stored),
            (firmware.evaluateMethod (wmiArg function arg) state).2) ∧
        firstDword stored ≠ 0xfefefefe ∧
        bytes.head? = some (byteOf (firstDword stored) 0) := by
  obtain ⟨reply, four, fits, noMarker⟩ := result
  obtain ⟨stored, copied⟩ : ∃ stored, memcpy array bytes = some stored :=
    ⟨_, if_pos fits⟩
  refine ⟨stored, ?_, ?_, head?_eq_of_copied copied four⟩
  · simp only [uwWmiEcEvaluate, Firmware.run_bind,
      Firmware.run_wmiEvaluateMethod, store_eq_memcpy, reply, WmiReply.bytes,
      copied, Firmware.run_pure, if_true]
  · intro equal
    have held :
        memcpy array
            (WmiReply.bytes ⟨true, some (.buffer bytes)⟩) = some stored :=
      copied
    exact
      noMarker
        (take_four_of_errorMarker four
          ((firstDword_eq_marker_iff held).mp equal))

/-- What is known of the state between two calls. -/
def Idle (view : σ → EcView) (ram : Ram) (state : σ) : Prop :=
  (view state).ram = ram ∧ (view state).flags = 0

theorem run_uwEcReadAddrWmi
    (oneRam : AccessesOneRam firmware view)
    {ram : Ram} {state : σ} (idle : Idle view ram state) (low high : U8) :
    ∃ dword after,
      firmware.run (uwEcReadAddrWmi low high) state =
          (some (0, dword), after) ∧
        byteOf dword 0 = ram (high ++ low) ∧ Idle view ram after := by
  obtain ⟨sameRam, cleared⟩ := idle
  rw [← oneRam.localArray state] at sameRam cleared
  obtain ⟨byte0, byte1, -, byte5⟩ := wmiArg_dwordOf 1 low high 0 0
  obtain ⟨⟨bytes, result, first⟩, ramAfter, clearedAfter⟩ :=
    oneRam.methodReads _ _ byte5 cleared
  obtain ⟨stored, evaluated, noMarker, delivered⟩ :=
    run_uwWmiEcEvaluate_of_result result (firmware.localArray state).1
  rw [byte0, byte1, sameRam] at first
  refine
    ⟨firstDword stored, _, ?_, Option.some.inj (delivered.symm.trans first),
      ramAfter.trans sameRam, clearedAfter⟩
  simp only [uwEcReadAddrWmi, joinedAddress_eq_dwordOf, Firmware.run_bind,
    Firmware.run_localArray, evaluated, Firmware.run_pure, checkMarker,
    Option.map_some, if_neg noMarker]

theorem run_uwEcWriteAddrWmi
    (oneRam : AccessesOneRam firmware view)
    {ram : Ram} {state : σ} (idle : Idle view ram state)
    (low high dataLow dataHigh : U8) :
    ∃ dword after,
      firmware.run (uwEcWriteAddrWmi low high dataLow dataHigh) state =
          (some (0, dword), after) ∧
        Idle view (Function.update ram (high ++ low) dataLow) after := by
  obtain ⟨sameRam, cleared⟩ := idle
  rw [← oneRam.localArray state] at sameRam cleared
  obtain ⟨byte0, byte1, byte2, byte5⟩ :=
    wmiArg_dwordOf 0 low high dataLow dataHigh
  obtain ⟨⟨bytes, result⟩, ramAfter, clearedAfter⟩ :=
    oneRam.methodWrites _ _ byte5 cleared
  obtain ⟨stored, evaluated, noMarker, -⟩ :=
    run_uwWmiEcEvaluate_of_result result (firmware.localArray state).1
  rw [byte0, byte1, byte2, sameRam] at ramAfter
  refine ⟨firstDword stored, _, ?_, ramAfter, clearedAfter⟩
  simp only [uwEcWriteAddrWmi, joined_eq_dwordOf, Firmware.run_bind,
    Firmware.run_localArray, evaluated, Firmware.run_pure, checkMarker,
    Option.map_some, if_neg noMarker]

/-! ## A call by the mailbox -/

/-- The address the access is for. -/
def DirectAccess.address : DirectAccess → U16
  | .read low high => high ++ low
  | .write low high _ _ => high ++ low

/-- The registers when all but the request of the access is written. -/
def EcView.prepare (view : EcView) (access : DirectAccess) : EcView :=
  access.arguments.foldl
    (fun shown argument => shown.store argument.1 argument.2)
    (view.store uniwillEcRegFlags uniwillEcBflg)

@[simp]
theorem EcView.prepare_ram (view : EcView) (access : DirectAccess) :
    (view.prepare access).ram = view.ram := by
  cases access <;> rfl

theorem EcView.prepare_address (view : EcView) (access : DirectAccess) :
    (view.prepare access).address = access.address := by
  cases access <;>
    simp [EcView.prepare, EcView.address, EcView.store,
      DirectAccess.arguments, DirectAccess.address]

theorem EcView.prepare_quiet (view : EcView) (access : DirectAccess) :
    (view.prepare access).quiet := by
  have flags : (view.prepare access).flags = uniwillEcBflg := by
    cases access <;>
      simp [EcView.prepare, EcView.flags, EcView.store,
        DirectAccess.arguments]
  left
  rw [flags]
  decide

theorem EcView.prepare_cmdl
    (view : EcView) (low high dataLow dataHigh : U8) :
    (view.prepare (.write low high dataLow dataHigh)).mailbox
        uniwillEcRegCmdl =
      dataLow := by
  simp [EcView.prepare, EcView.store, DirectAccess.arguments]

/-- Writing the registers of an access asks for nothing yet. -/
private theorem view_arguments
    (oneRam : AccessesOneRam firmware view)
    {arguments : List (U8 × U8)}
    (notFlags : ∀ argument ∈ arguments, argument.1 ≠ uniwillEcRegFlags)
    {state : σ} (quiet : (view state).quiet) :
    view (firmware.run
        (arguments.forM fun argument => ecWrite argument.1 argument.2)
        state).2 =
      arguments.foldl (fun shown argument =>
        shown.store argument.1 argument.2) (view state) := by
  induction arguments generalizing state with
  | nil =>
      rfl
  | cons argument rest inductionHypothesis =>
      have other := notFlags argument List.mem_cons_self
      have stored :=
        oneRam.registerWrite argument.1 argument.2 state quiet
          fun flags => absurd flags other
      have stillQuiet :
          (view (firmware.ecWrite argument.1 argument.2 state)).quiet := by
        rw [stored]
        exact EcView.quiet_store other quiet
      have later :=
        inductionHypothesis
          (fun argument member =>
            notFlags argument (List.mem_cons_of_mem _ member)) stillQuiet
      simpa only [List.forM, Firmware.run_bind, Firmware.run_ecWrite,
        List.foldl_cons, stored] using later

private theorem arguments_notFlags (access : DirectAccess) :
    ∀ argument ∈ access.arguments, argument.1 ≠ uniwillEcRegFlags := by
  cases access <;> simp [DirectAccess.arguments]

/-- The last step before the loop is the request, in a state where the
registers describe the access. -/
private theorem requested_of_idle
    (oneRam : AccessesOneRam firmware view) (access : DirectAccess)
    {ram : Ram} {state : σ} (idle : Idle view ram state) :
    ∃ prepared,
      firmware.requested access state =
          firmware.ecWrite uniwillEcRegFlags
            (uniwillEcBflg ||| access.flag) prepared ∧
        view prepared = (view state).prepare access := by
  obtain ⟨-, cleared⟩ := idle
  have quiet : (view state).quiet := EcView.quiet_of_flags_eq_zero cleared
  obtain ⟨answer, unchanged⟩ :=
    oneRam.registerRead uniwillEcRegFlags state quiet
  have flags : (firmware.ecRead uniwillEcRegFlags state).1 = 0 :=
    answer.trans cleared
  rw [← unchanged] at quiet
  have announced :=
    oneRam.registerWrite uniwillEcRegFlags uniwillEcBflg _ quiet
      fun _ => by decide
  have stillQuiet :
      (view (firmware.ecWrite uniwillEcRegFlags uniwillEcBflg
        (firmware.ecRead uniwillEcRegFlags state).2)).quiet := by
    rw [announced]
    exact Or.inl (by rw [EcView.store_flags]; decide)
  refine
    ⟨_, ?_,
      (view_arguments oneRam (arguments_notFlags access) stillQuiet).trans
        (by rw [announced, unchanged]; rfl)⟩
  have announcedValue : (0 : U8) ||| uniwillEcBflg = uniwillEcBflg := by
    decide
  have requestValue : uniwillEcBflg &&& ~~~uniwillEcDrdy = uniwillEcBflg := by
    decide
  simp only [Firmware.requested, startAccess, Firmware.run_bind,
    Firmware.run_ecRead, Firmware.run_ecWrite, flags, announcedValue,
    requestValue]

/-- Clearing the flags ends an access. -/
private theorem idle_after_clearing
    (oneRam : AccessesOneRam firmware view)
    {ram : Ram} {state : σ} (quiet : (view state).quiet)
    (holds : (view state).ram = ram) :
    Idle view ram (firmware.ecWrite uniwillEcRegFlags 0x00 state) := by
  have cleared :=
    oneRam.registerWrite uniwillEcRegFlags 0x00 state quiet
      fun _ => by decide
  exact
    ⟨by rw [cleared]; exact holds, by rw [cleared, EcView.store_flags]⟩

/-- The output of a read is what CMDL holds when the access is ready. -/
private theorem run_accessOutput_read
    (oneRam : AccessesOneRam firmware view) (low high : U8)
    {ready : σ} (quiet : (view ready).quiet) :
    byteOf (firmware.run (accessOutput (.read low high)) ready).1 0 =
        (view ready).mailbox uniwillEcRegCmdl ∧
      view (firmware.run (accessOutput (.read low high)) ready).2 =
        view ready := by
  obtain ⟨lowByte, lowRead⟩ :=
    oneRam.registerRead uniwillEcRegCmdl ready quiet
  rw [← lowRead] at quiet
  obtain ⟨-, highRead⟩ :=
    oneRam.registerRead uniwillEcRegCmdh _ quiet
  simp only [accessOutput, Firmware.run_bind, Firmware.run_ecRead,
    Firmware.run_pure, byteOf_dwordOf_zero]
  exact ⟨lowByte, highRead.trans lowRead⟩

theorem run_uwEcReadAddrDirect
    (oneRam : AccessesOneRam firmware view)
    {ram : Ram} {state : σ} (idle : Idle view ram state) (low high : U8) :
    ∃ dword after,
      firmware.run (uwEcReadAddrDirect low high) state =
          ((0, dword), after) ∧
        byteOf dword 0 = ram (high ++ low) ∧ Idle view ram after := by
  obtain ⟨prepared, requested, shown⟩ :=
    requested_of_idle oneRam (.read low high) idle
  have quiet : (view prepared).quiet := by
    rw [shown]
    exact EcView.prepare_quiet _ _
  obtain ⟨poll, inTime, first, readyQuiet, readyRam, cmdl⟩ :=
    oneRam.mailboxReads (uniwillEcBflg ||| uniwillEcRflg) prepared quiet
      (by decide) (by decide) (by decide)
  replace requested :
      firmware.requested (.read low high) state =
        firmware.ecWrite uniwillEcRegFlags
          (uniwillEcBflg ||| uniwillEcRflg) prepared :=
    requested
  rw [← requested] at first readyQuiet readyRam cmdl
  rw [shown, EcView.prepare_ram, idle.1] at readyRam
  rw [shown, EcView.prepare_ram, EcView.prepare_address, idle.1] at cmdl
  obtain ⟨delivered, afterOutput⟩ :=
    run_accessOutput_read oneRam low high readyQuiet
  rw [← afterOutput] at readyQuiet readyRam
  exact
    ⟨_, _, run_directAccess_of_first _ (Nat.succ_lt_succ inTime) first,
      delivered.trans cmdl,
      idle_after_clearing oneRam readyQuiet readyRam⟩

theorem run_uwEcWriteAddrDirect
    (oneRam : AccessesOneRam firmware view)
    {ram : Ram} {state : σ} (idle : Idle view ram state)
    (low high dataLow dataHigh : U8) :
    ∃ dword after,
      firmware.run (uwEcWriteAddrDirect low high dataLow dataHigh) state =
          ((0, dword), after) ∧
        Idle view (Function.update ram (high ++ low) dataLow) after := by
  obtain ⟨prepared, requested, shown⟩ :=
    requested_of_idle oneRam (.write low high dataLow dataHigh) idle
  have quiet : (view prepared).quiet := by
    rw [shown]
    exact EcView.prepare_quiet _ _
  obtain ⟨poll, inTime, first, readyQuiet, readyRam⟩ :=
    oneRam.mailboxWrites (uniwillEcBflg ||| uniwillEcWflg) prepared quiet
      (by decide) (by decide) (by decide)
  replace requested :
      firmware.requested (.write low high dataLow dataHigh) state =
        firmware.ecWrite uniwillEcRegFlags
          (uniwillEcBflg ||| uniwillEcWflg) prepared :=
    requested
  rw [← requested] at first readyQuiet readyRam
  rw [shown, EcView.prepare_ram, EcView.prepare_address,
    EcView.prepare_cmdl, idle.1] at readyRam
  exact
    ⟨_, _, run_directAccess_of_first _ (Nat.succ_lt_succ inTime) first,
      idle_after_clearing oneRam readyQuiet readyRam⟩

/-! ## All calls -/

@[simp]
theorem pollState_withDirectIo (direct : Bool) (polls : Nat) (state : σ) :
    (firmware.withDirectIo direct).pollState polls state =
      firmware.pollState polls state := by
  induction polls generalizing state with
  | zero =>
      rfl
  | succ polls inductionHypothesis =>
      exact inductionHypothesis _

theorem firstReadyAt_withDirectIo
    {direct : Bool} {poll : Nat} {state : σ}
    (first : firmware.firstReadyAt poll state) :
    (firmware.withDirectIo direct).firstReadyAt poll state := by
  unfold Firmware.firstReadyAt Firmware.readyAt at first ⊢
  simp only [pollState_withDirectIo]
  exact first

/-- The setting is no part of what the firmware does. -/
theorem AccessesOneRam.withDirectIo
    (oneRam : AccessesOneRam firmware view) (direct : Bool) :
    AccessesOneRam (firmware.withDirectIo direct) view where
  localArray := oneRam.localArray
  methodReads := oneRam.methodReads
  methodWrites := oneRam.methodWrites
  registerRead := oneRam.registerRead
  registerWrite := oneRam.registerWrite
  mailboxReads value state quiet reads noWrite notReady := by
    obtain ⟨poll, inTime, first, served⟩ :=
      oneRam.mailboxReads value state quiet reads noWrite notReady
    refine ⟨poll, inTime, firstReadyAt_withDirectIo first, ?_⟩
    rw [pollState_withDirectIo]
    exact served
  mailboxWrites value state quiet writes noRead notReady := by
    obtain ⟨poll, inTime, first, served⟩ :=
      oneRam.mailboxWrites value state quiet writes noRead notReady
    refine ⟨poll, inTime, firstReadyAt_withDirectIo first, ?_⟩
    rw [pollState_withDirectIo]
    exact served

/-- Looking at the setting touches neither the RAM nor the mailbox. -/
def SettingApart (firmware : Firmware σ) (view : σ → EcView) : Prop :=
  ∀ state, view (firmware.uniwillEcDirect state).2 = view state

/-- `uw_wmi_read_ec_ram` once it has looked at `ec_direct_io`. -/
def readEcRamWith (direct : Bool) (address : U16) :
    Backend (Option (Int × U8)) := do
  if direct = true then
    let output ← uwEcReadAddrDirect (addrLow address) (addrHigh address)
    return some (output.1, byteOf output.2 0)
  else
    let output ← uwEcReadAddrWmi (addrLow address) (addrHigh address)
    return output.map fun output => (output.1, byteOf output.2 0)

/-- `uw_wmi_write_ec_ram` once it has looked at `ec_direct_io`. -/
def writeEcRamWith (direct : Bool) (address : U16) (data : U8) :
    Backend (Option Int) := do
  if direct = true then
    let output ←
      uwEcWriteAddrDirect (addrLow address) (addrHigh address) data 0x00
    return some output.1
  else
    let output ←
      uwEcWriteAddrWmi (addrLow address) (addrHigh address) data 0x00
    return output.map Prod.fst

theorem uwWmiReadEcRam_eq (address : U16) :
    uwWmiReadEcRam address =
      getUniwillEcDirect >>= (readEcRamWith · address) :=
  (rfl)

theorem uwWmiWriteEcRam_eq (address : U16) (data : U8) :
    uwWmiWriteEcRam address data =
      getUniwillEcDirect >>= (writeEcRamWith · address data) :=
  (rfl)

theorem run_readEcRamWith
    (oneRam : AccessesOneRam firmware view)
    {ram : Ram} {state : σ} (idle : Idle view ram state)
    (direct : Bool) (address : U16) :
    ∃ after,
      firmware.run (readEcRamWith direct address) state =
          (some (0, ram address), after) ∧
        Idle view ram after := by
  cases direct with
  | false =>
      obtain ⟨dword, after, result, byte, stillIdle⟩ :=
        run_uwEcReadAddrWmi oneRam idle (addrLow address) (addrHigh address)
      rw [addrHigh_append_addrLow] at byte
      refine ⟨after, ?_, stillIdle⟩
      simp only [readEcRamWith, Bool.false_eq_true, if_false,
        Firmware.run_bind, result, Firmware.run_pure, Option.map_some, byte]
  | true =>
      obtain ⟨dword, after, result, byte, stillIdle⟩ :=
        run_uwEcReadAddrDirect oneRam idle (addrLow address)
          (addrHigh address)
      rw [addrHigh_append_addrLow] at byte
      refine ⟨after, ?_, stillIdle⟩
      simp only [readEcRamWith, if_true, Firmware.run_bind, result,
        Firmware.run_pure, byte]

theorem run_writeEcRamWith
    (oneRam : AccessesOneRam firmware view)
    {ram : Ram} {state : σ} (idle : Idle view ram state)
    (direct : Bool) (address : U16) (data : U8) :
    ∃ after,
      firmware.run (writeEcRamWith direct address data) state =
          (some 0, after) ∧
        Idle view (Function.update ram address data) after := by
  cases direct with
  | false =>
      obtain ⟨dword, after, result, stillIdle⟩ :=
        run_uwEcWriteAddrWmi oneRam idle (addrLow address)
          (addrHigh address) data 0x00
      rw [addrHigh_append_addrLow] at stillIdle
      refine ⟨after, ?_, stillIdle⟩
      simp only [writeEcRamWith, Bool.false_eq_true, if_false,
        Firmware.run_bind, result, Firmware.run_pure, Option.map_some]
  | true =>
      obtain ⟨dword, after, result, stillIdle⟩ :=
        run_uwEcWriteAddrDirect oneRam idle (addrLow address)
          (addrHigh address) data 0x00
      rw [addrHigh_append_addrLow] at stillIdle
      refine ⟨after, ?_, stillIdle⟩
      simp only [writeEcRamWith, if_true, Firmware.run_bind, result,
        Firmware.run_pure]

theorem run_uwWmiReadEcRam
    (oneRam : AccessesOneRam firmware view)
    (settingApart : SettingApart firmware view)
    {ram : Ram} {state : σ} (idle : Idle view ram state) (address : U16) :
    ∃ after,
      firmware.run (uwWmiReadEcRam address) state =
          (some (0, ram address), after) ∧
        Idle view ram after := by
  unfold Idle at idle
  rw [← settingApart state] at idle
  rw [uwWmiReadEcRam_eq, Firmware.run_bind, Firmware.run_getUniwillEcDirect]
  exact run_readEcRamWith oneRam idle _ address

theorem run_uwWmiWriteEcRam
    (oneRam : AccessesOneRam firmware view)
    (settingApart : SettingApart firmware view)
    {ram : Ram} {state : σ} (idle : Idle view ram state)
    (address : U16) (data : U8) :
    ∃ after,
      firmware.run (uwWmiWriteEcRam address data) state =
          (some 0, after) ∧
        Idle view (Function.update ram address data) after := by
  unfold Idle at idle
  rw [← settingApart state] at idle
  rw [uwWmiWriteEcRam_eq, Firmware.run_bind, Firmware.run_getUniwillEcDirect]
  exact run_writeEcRamWith oneRam idle _ address data

/-- One call, by either back end, is one access to the RAM. -/
theorem calls_simulate_ramCalls
    (oneRam : AccessesOneRam firmware view) :
    Program.Simulates (fun state ram => Idle view ram state)
      firmware.calls ramCalls := by
  rintro ⟨direct, call⟩ state ram idle
  have setOneRam := oneRam.withDirectIo direct
  have settingApart :
      SettingApart (firmware.withDirectIo direct) view :=
    fun _ => rfl
  cases call with
  | readEcRam address =>
      obtain ⟨after, result, stillIdle⟩ :=
        run_uwWmiReadEcRam setOneRam settingApart idle address
      simp only [Firmware.calls, EcCall.program, Firmware.run_bind, result,
        Firmware.run_pure, Option.elim_some, ramCalls]
      exact ⟨trivial, stillIdle⟩
  | writeEcRam address data =>
      obtain ⟨after, result, stillIdle⟩ :=
        run_uwWmiWriteEcRam setOneRam settingApart idle address data
      simp only [Firmware.calls, EcCall.program, Firmware.run_bind, result,
        Firmware.run_pure, Option.elim_some, ramCalls]
      exact ⟨trivial, stillIdle⟩

private theorem run_callSequence_cons
    {τ : Type} (environment : Environment callSignature τ)
    (call : Bool × EcCall) (rest : List (Bool × EcCall)) (state : τ) :
    (callSequence (call :: rest)).run environment state =
      let answer := environment call state
      let later := (callSequence rest).run environment answer.2
      (answer.1 :: later.1, later.2) := by
  simp only [callSequence, List.mapM_cons, Program.run_bind,
    Program.run_pure]
  rfl

/-- The memory does not know of the setting. -/
private theorem run_callSequence_ram_congr
    {first second : List (Bool × EcCall)}
    (sameCalls : first.map Prod.snd = second.map Prod.snd) (ram : Ram) :
    (callSequence first).run ramCalls ram =
      (callSequence second).run ramCalls ram := by
  induction first generalizing second ram with
  | nil =>
      cases second with
      | nil =>
          rfl
      | cons call rest =>
          cases sameCalls
  | cons call rest inductionHypothesis =>
      cases second with
      | nil =>
          cases sameCalls
      | cons other others =>
          obtain ⟨sameCall, sameRest⟩ := List.cons.inj sameCalls
          have sameAnswer :
              ramCalls call ram = ramCalls other ram := by
            obtain ⟨direct, call⟩ := call
            obtain ⟨otherDirect, otherCall⟩ := other
            cases sameCall
            cases call <;> rfl
          have sameAnswers :=
            inductionHypothesis sameRest (ramCalls other ram).2
          rw [run_callSequence_cons, run_callSequence_cons, sameAnswer]
          simp only [sameAnswers]

end Calls

/-- Whatever back end each call of a sequence uses, the answers and the
memory afterwards are those of the memory itself, the flags are cleared
again, and another choice of the back ends makes no difference. -/
theorem backEnds_refine_ram
    {σ : Type} (firmware : Firmware σ) (view : σ → EcView)
    (oneRam : AccessesOneRam firmware view)
    (state : σ) (cleared : (view state).flags = 0)
    (calls : List (Bool × EcCall)) :
    ((callSequence calls).run firmware.calls state).1 =
        ((callSequence calls).run ramCalls (view state).ram).1 ∧
      (view ((callSequence calls).run firmware.calls state).2).ram =
        ((callSequence calls).run ramCalls (view state).ram).2 ∧
      (view ((callSequence calls).run firmware.calls state).2).flags = 0 ∧
      ∀ otherCalls : List (Bool × EcCall),
        otherCalls.map Prod.snd = calls.map Prod.snd →
        ((callSequence otherCalls).run firmware.calls state).1 =
            ((callSequence calls).run firmware.calls state).1 ∧
          (view ((callSequence otherCalls).run firmware.calls state).2).ram =
            (view ((callSequence calls).run firmware.calls state).2).ram := by
  have simulates := calls_simulate_ramCalls oneRam
  have idle : Idle view (view state).ram state := ⟨rfl, cleared⟩
  obtain ⟨answers, ramAfter, clearedAfter⟩ :=
    simulates.run (callSequence calls) idle
  refine ⟨answers, ramAfter, clearedAfter, fun otherCalls sameCalls => ?_⟩
  obtain ⟨otherAnswers, otherRamAfter, -⟩ :=
    simulates.run (callSequence otherCalls) idle
  have same := run_callSequence_ram_congr sameCalls (view state).ram
  rw [same] at otherAnswers otherRamAfter
  exact
    ⟨otherAnswers.trans answers.symm, otherRamAfter.trans ramAfter.symm⟩

/-! ## The driver over the back ends -/

section Driver

variable {σ : Type}

/-- What a read of the interface is to the driver; `overrun` stands for
whatever follows after an array is overrun. -/
def readOutcome (overrun : EcRead) : Option (Int × U8) → EcRead
  | none => overrun
  | some (result, data) => if result = 0 then .ok data else .fail data

def writeOutcome (overrun : EcWrite) : Option Int → EcWrite
  | none => overrun
  | some result => if result = 0 then .ok else .fail

/-- The EC as the driver sees it through the interface. -/
def Firmware.ecDevice
    (firmware : Firmware σ) (overrun : EcRead × EcWrite) : EcDevice σ where
  read address state :=
    let output := firmware.run (uwWmiReadEcRam address) state
    (readOutcome overrun.1 output.1, output.2)
  write address data state :=
    let output := firmware.run (uwWmiWriteEcRam address data) state
    (writeOutcome overrun.2 output.1, output.2)

/-- Every operation of the driver does over the back ends what it does on an
EC whose accesses all succeed. -/
theorem run_ecDevice_eq_reliableEc
    {firmware : Firmware σ} {view : σ → EcView}
    (oneRam : AccessesOneRam firmware view)
    (settingApart : SettingApart firmware view)
    (overrun : EcRead × EcWrite) {α : Type} (program : Driver α)
    {statics : DriverState} {ram : Ram} {state : σ}
    (idle : Idle view ram state) :
    let concrete := (firmware.ecDevice overrun).run program (statics, state)
    let expected := reliableEc.run program (statics, ram)
    concrete.1 = expected.1 ∧ concrete.2.1 = expected.2.1 ∧
      Idle view expected.2.2 concrete.2.2 := by
  have simulates :
      Program.Simulates
        (fun (machine : Machine σ) (reliable : Machine Ram) =>
          machine.1 = reliable.1 ∧ Idle view reliable.2 machine.2)
        (firmware.ecDevice overrun).environment reliableEc.environment := by
    rintro request ⟨statics, state⟩ ⟨_, ram⟩ ⟨rfl, idle⟩
    cases request with
    | readEcRam address =>
        obtain ⟨after, result, stillIdle⟩ :=
          run_uwWmiReadEcRam oneRam settingApart idle address
        simp only [EcDevice.environment, Firmware.ecDevice, result,
          readOutcome, if_true, reliableEc_read]
        exact ⟨trivial, trivial, stillIdle⟩
    | writeEcRam address data =>
        obtain ⟨after, result, stillIdle⟩ :=
          run_uwWmiWriteEcRam oneRam settingApart idle address data
        simp only [EcDevice.environment, Firmware.ecDevice, result,
          writeOutcome, if_true, reliableEc_write]
        exact ⟨trivial, trivial, stillIdle⟩
    | statics update =>
        exact ⟨rfl, rfl, idle⟩
  exact simulates.run program ⟨rfl, idle⟩

end Driver

/-! ## Firmware that keeps the assumptions -/

/-- The RAM, the mailbox, and the polls until a request is served. -/
structure MailboxEc where
  shown : EcView
  waiting : Nat

namespace MailboxEc

/-- Serve the request of the mailbox. -/
def serve (view : EcView) : EcView :=
  if view.flags &&& uniwillEcRflg ≠ 0 then
    (view.store uniwillEcRegCmdl (view.ram view.address)).store
      uniwillEcRegFlags (view.flags ||| uniwillEcDrdy)
  else
    { view.store uniwillEcRegFlags (view.flags ||| uniwillEcDrdy) with
      ram :=
        Function.update view.ram view.address
          (view.mailbox uniwillEcRegCmdl) }

def method (input : Vector U8 8) (ec : MailboxEc) : WmiReply × MailboxEc :=
  if input[5] = 1 then
    (⟨true, some (.buffer [ec.shown.ram (input[1] ++ input[0]), 0, 0, 0])⟩,
      ec)
  else if input[5] = 0 then
    (⟨true, some (.buffer [input[0], input[1], input[2], 0])⟩,
      { ec with
        shown.ram :=
          Function.update ec.shown.ram (input[1] ++ input[0]) input[2] })
  else (⟨false, none⟩, ec)

def pending (view : EcView) : Bool :=
  EcView.requests view.flags && decide (view.flags &&& uniwillEcDrdy = 0)

def read (register : U8) (ec : MailboxEc) : U8 × MailboxEc :=
  if register = uniwillEcRegFlags ∧ pending ec.shown = true then
    if ec.waiting = 0 then
      ((serve ec.shown).flags, { ec with shown := serve ec.shown })
    else (ec.shown.flags, { ec with waiting := ec.waiting - 1 })
  else (ec.shown.mailbox register, ec)

end MailboxEc

/-- Firmware that serves every request of the mailbox after `delay` polls
that find it busy. -/
def mailboxFirmware (delay : Nat) : Firmware MailboxEc where
  evaluateMethod := MailboxEc.method
  ecRead := MailboxEc.read
  ecWrite register value ec := ⟨ec.shown.store register value, delay⟩
  localArray ec := (Vector.replicate 40 0x5a, ec)
  uniwillEcDirect ec := (false, ec)

section MailboxFirmware

private theorem not_pending_of_quiet
    {view : EcView} (quiet : view.quiet) :
    MailboxEc.pending view = false := by
  rcases quiet with none | ready
  · simp only [MailboxEc.pending, none, Bool.false_and]
  · simp only [MailboxEc.pending, ready, decide_false, Bool.and_false]

private theorem serve_flags (view : EcView) :
    (MailboxEc.serve view).flags = view.flags ||| uniwillEcDrdy := by
  unfold MailboxEc.serve
  split
  · rw [EcView.store_flags]
  · exact EcView.store_flags view _

private theorem or_drdy_and (flags : U8) :
    (flags ||| uniwillEcDrdy) &&& uniwillEcDrdy = uniwillEcDrdy := by
  ext index below
  simp only [BitVec.getElem_and, BitVec.getElem_or]
  cases flags[index] <;> simp

private theorem serve_ready (view : EcView) :
    (MailboxEc.serve view).flags &&& uniwillEcDrdy ≠ 0 := by
  rw [serve_flags, or_drdy_and]
  decide

private theorem read_flags_of_pending
    {view : EcView} (pending : MailboxEc.pending view = true)
    (waiting : Nat) :
    MailboxEc.read uniwillEcRegFlags ⟨view, waiting⟩ =
      if waiting = 0 then
        ((MailboxEc.serve view).flags, ⟨MailboxEc.serve view, waiting⟩)
      else (view.flags, ⟨view, waiting - 1⟩) :=
  if_pos ⟨rfl, pending⟩

/-- A request that waits for some polls is served by the next. -/
private theorem served_after_waiting
    (delay waiting : Nat) {view : EcView}
    (pending : MailboxEc.pending view = true) :
    (mailboxFirmware delay).firstReadyAt waiting ⟨view, waiting⟩ ∧
      ((mailboxFirmware delay).pollState (waiting + 1)
        ⟨view, waiting⟩).shown = MailboxEc.serve view := by
  induction waiting with
  | zero =>
      have answer := read_flags_of_pending pending 0
      rw [if_pos rfl] at answer
      have ready :
          (mailboxFirmware delay).readyAt 0 ⟨view, 0⟩ := by
        change (MailboxEc.read uniwillEcRegFlags ⟨view, 0⟩).1 &&& _ ≠ 0
        rw [answer]
        exact serve_ready view
      refine ⟨⟨fun _ before => absurd before (Nat.not_lt_zero _), ready⟩, ?_⟩
      change (MailboxEc.read uniwillEcRegFlags ⟨view, 0⟩).2.shown = _
      rw [answer]
  | succ waiting inductionHypothesis =>
      have answer := read_flags_of_pending pending (waiting + 1)
      rw [if_neg (Nat.succ_ne_zero waiting)] at answer
      have notReady : view.flags &&& uniwillEcDrdy = 0 :=
        of_decide_eq_true (Bool.and_eq_true_iff.mp pending).2
      have next :
          ((mailboxFirmware delay).ecRead uniwillEcRegFlags
            ⟨view, waiting + 1⟩).2 = ⟨view, waiting⟩ :=
        congrArg Prod.snd answer
      constructor
      · rw [firstReadyAt_succ_iff, next]
        refine ⟨?_, inductionHypothesis.1⟩
        change
          ¬ (MailboxEc.read uniwillEcRegFlags
            ⟨view, waiting + 1⟩).1 &&& _ ≠ 0
        rw [answer]
        exact not_not.mpr notReady
      · rw [Firmware.pollState, next]
        exact inductionHypothesis.2

private theorem serve_read
    (view : EcView) {value : U8} (reads : value &&& uniwillEcRflg ≠ 0) :
    let served := MailboxEc.serve (view.store uniwillEcRegFlags value)
    served.quiet ∧ served.ram = view.ram ∧
      served.mailbox uniwillEcRegCmdl = view.ram view.address := by
  refine ⟨Or.inr (serve_ready _), ?_⟩
  unfold MailboxEc.serve
  rw [EcView.store_flags, if_pos reads]
  constructor
  · rfl
  · simp [EcView.store, EcView.address]

private theorem serve_write
    (view : EcView) {value : U8} (noRead : value &&& uniwillEcRflg = 0) :
    let served := MailboxEc.serve (view.store uniwillEcRegFlags value)
    served.quiet ∧
      served.ram =
        Function.update view.ram view.address
          (view.mailbox uniwillEcRegCmdl) := by
  refine ⟨Or.inr (serve_ready _), ?_⟩
  unfold MailboxEc.serve
  rw [EcView.store_flags, if_neg (not_not.mpr noRead)]
  simp [EcView.store, EcView.address]

private theorem pending_store
    (view : EcView) {value : U8}
    (request : EcView.requests value = true)
    (notReady : value &&& uniwillEcDrdy = 0) :
    MailboxEc.pending (view.store uniwillEcRegFlags value) = true := by
  simp only [MailboxEc.pending, EcView.store_flags, request, notReady,
    decide_true, Bool.and_self]

private theorem requests_of_bit
    {value : U8}
    (bit : value &&& uniwillEcRflg ≠ 0 ∨ value &&& uniwillEcWflg ≠ 0) :
    EcView.requests value = true := by
  unfold EcView.requests
  rw [decide_eq_true_iff, BitVec.and_or_distrib_left]
  intro none
  obtain ⟨noRead, noWrite⟩ := BitVec.or_eq_zero_iff.mp none
  rcases bit with reads | writes
  · exact reads noRead
  · exact writes noWrite

/-- Any delay that is short enough keeps the assumptions. -/
theorem mailboxFirmware_accessesOneRam
    {delay : Nat} (short : delay < 29) :
    AccessesOneRam (mailboxFirmware delay) MailboxEc.shown where
  localArray _ := rfl
  methodReads input ec function cleared := by
    have answer :
        (mailboxFirmware delay).evaluateMethod input ec =
          (⟨true, some (.buffer
            [ec.shown.ram (input[1] ++ input[0]), 0, 0, 0])⟩, ec) :=
      if_pos function
    rw [answer]
    exact
      ⟨⟨_, ⟨rfl, by simp, by simp, by simp⟩, rfl⟩, rfl, cleared⟩
  methodWrites input ec function cleared := by
    have notRead : input[5] ≠ 1 := by
      rw [function]
      decide
    have answer :
        (mailboxFirmware delay).evaluateMethod input ec =
          (⟨true, some (.buffer [input[0], input[1], input[2], 0])⟩,
            { ec with
              shown.ram :=
                Function.update ec.shown.ram (input[1] ++ input[0])
                  input[2] }) :=
      (if_neg notRead).trans (if_pos function)
    rw [answer]
    exact ⟨⟨_, rfl, by simp, by simp, by simp⟩, rfl, cleared⟩
  registerRead register ec quiet := by
    have answer :
        (mailboxFirmware delay).ecRead register ec =
          (ec.shown.mailbox register, ec) :=
      if_neg fun busy =>
        absurd (busy.2.symm.trans (not_pending_of_quiet quiet)) (by decide)
    rw [answer]
    exact ⟨rfl, rfl⟩
  registerWrite register value ec quiet noRequest := rfl
  mailboxReads value ec quiet reads noWrite notReady := by
    obtain ⟨first, ready⟩ :=
      served_after_waiting delay delay
        (pending_store ec.shown (requests_of_bit (Or.inl reads)) notReady)
    refine ⟨delay, short, first, ?_⟩
    have served := serve_read ec.shown reads
    rw [← ready] at served
    exact served
  mailboxWrites value ec quiet writes noRead notReady := by
    obtain ⟨first, ready⟩ :=
      served_after_waiting delay delay
        (pending_store ec.shown (requests_of_bit (Or.inr writes)) notReady)
    refine ⟨delay, short, first, ?_⟩
    have served := serve_write ec.shown noRead
    rw [← ready] at served
    exact served

/-- The slowest firmware that is in time, and both back ends in turn. -/
theorem backEnds_refine_ram_slowest :
    ((callSequence
        [ (true, .writeEcRam 0x0751 0x40), (false, .readEcRam 0x0751),
          (false, .writeEcRam 0x0751 0xfe), (true, .readEcRam 0x0751) ]).run
      (mailboxFirmware 28).calls ⟨⟨fun _ => 0, fun _ => 0⟩, 0⟩).1 =
        [.written 0, .read 0 0x40, .written 0, .read 0 0xfe] :=
  (backEnds_refine_ram (mailboxFirmware 28) MailboxEc.shown
    (mailboxFirmware_accessesOneRam (by decide))
    ⟨⟨fun _ => 0, fun _ => 0⟩, 0⟩ rfl _).1.trans (by decide)

end MailboxFirmware

end TuxedoDrivers.Uniwill
