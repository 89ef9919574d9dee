import TuxedoDrivers.Clevo.Flexicharger
import TuxedoDrivers.Sysfs

/-!
# Modes of the keyboard backlight

The table `kbd_backlight_modes`, the attribute `kbd_backlight_mode` and what
`clevo_keyboard_init` does with the module parameter.  A stored number is cast
to a byte before it is clamped, so a large number selects the last mode only
if its low byte does.
-/

namespace TuxedoDrivers.Clevo

open Interaction

/-! ## The table -/

structure KbdBacklightMode where
  key : U8
  value : U32
  name : String
  deriving DecidableEq, Repr

def kbdBacklightModes : List KbdBacklightMode :=
  [⟨0, 0x00000000, "CUSTOM"⟩, ⟨1, 0x1002a000, "BREATHE"⟩,
    ⟨2, 0x33010000, "CYCLE"⟩, ⟨3, 0x80000000, "DANCE"⟩,
    ⟨4, 0xA0000000, "FLASH"⟩, ⟨5, 0x70000000, "RANDOM_COLOR"⟩,
    ⟨6, 0x90000000, "TEMPO"⟩, ⟨7, 0xB0000000, "WAVE"⟩]

/-- An index of the table, which the module parameter is checked to be. -/
abbrev KbdMode : Type :=
  { mode : U8 // mode.toNat < kbdBacklightModes.length }

namespace KbdMode

def entry (mode : KbdMode) : KbdBacklightMode :=
  kbdBacklightModes.get ⟨mode.val.toNat, mode.property⟩

/-- The last mode, for whatever is beyond the table. -/
def clamped (number : Nat) : KbdMode :=
  ⟨BitVec.ofNat 8 (min number 7), by
    rw [BitVec.toNat_ofNat]
    exact lt_of_le_of_lt (Nat.mod_le _ _)
      (lt_of_le_of_lt (Nat.min_le_right number 7) (by decide))⟩

end KbdMode

/-! ## Requests -/

/-- A call of the active interface without a result, and a read at an index
beyond the table. -/
inductive KbdModeRequest where
  | clevoEvaluateMethod (cmd : U8) (arg : U32)
  | beyondTable (index : U8)
  deriving DecidableEq, Repr

abbrev KbdModeRequest.Answer : KbdModeRequest → Type
  | .clevoEvaluateMethod _ _ => Int
  | .beyondTable _ => KbdBacklightMode

abbrev kbdModeSignature : Signature :=
  ⟨KbdModeRequest, KbdModeRequest.Answer⟩

abbrev KbdModes (α : Type) : Type :=
  Program kbdModeSignature α

/-- The active interface, and memory beyond the table. -/
def kbdModeEnvironment {σ : Type}
    (activeClevoInterface : Option ClevoInterface) (firmware : Firmware σ)
    (beyondTable : U8 → KbdBacklightMode) :
    Environment kbdModeSignature σ
  | .clevoEvaluateMethod cmd arg, state =>
      (((clevoEvaluateMethod activeClevoInterface cmd arg).run firmware
          state).1.1,
        ((clevoEvaluateMethod activeClevoInterface cmd arg).run firmware
          state).2)
  | .beyondTable index, state => (beyondTable index, state)

def evaluateMethod (cmd : U8) (arg : U32) : KbdModes Int :=
  Program.request (S := kbdModeSignature) (.clevoEvaluateMethod cmd arg)

def modeAt (index : U8) : KbdModes KbdBacklightMode :=
  if inTable : index.toNat < kbdBacklightModes.length then
    pure (KbdMode.entry ⟨index, inTable⟩)
  else
    Program.request (S := kbdModeSignature) (.beyondTable index)

/-! ## The driver -/

/-- `kbd_led_state`. -/
structure KbdLedState where
  mode : U8 := 0
  deriving DecidableEq, Repr

def clevoCmdSetEventsEnabled : U8 := 0x46
def clevoCmdSetKbRgbLeds : U8 := 0x67
def clevoCmdOpt : U8 := 0x79

def setKbdBacklightMode (kbdBacklightMode : U8)
    (kbdLedState : KbdLedState) : KbdModes KbdLedState := do
  let entry ← modeAt kbdBacklightMode
  let status ← evaluateMethod clevoCmdSetKbRgbLeds entry.value
  if status = 0 then
    return { kbdLedState with mode := kbdBacklightMode }
  else
    return kbdLedState

def listKbdBacklightModesFs (kbdLedState : KbdLedState) : String :=
  sysfsEmitByte kbdLedState.mode

/-- `clamp`. -/
def clamp (value low high : U8) : U8 :=
  if high ≤ value then high
  else if value ≤ low then low
  else value

/-- `clamp_t(u8, ..)`, which casts its arguments to `u8` first. -/
def clampU8 (value low high : U32) : U8 :=
  clamp (value.setWidth 8) (low.setWidth 8) (high.setWidth 8)

def setKbdBacklightModeFs (buffer : String) (size : Nat)
    (kbdLedState : KbdLedState) : KbdModes (Int × KbdLedState) :=
  match kstrtouint buffer 0 with
  | .error err => pure (err, kbdLedState)
  | .ok kbdBacklightMode => do
      let last := BitVec.ofNat 32 (kbdBacklightModes.length - 1)
      let kbdLedState ←
        setKbdBacklightMode (clampU8 kbdBacklightMode 0 last) kbdLedState
      return ((size : Int), kbdLedState)

/-- The devices whose firmware does not set the selected performance
profile. -/
def performanceProfileSetWorkaround (dmi : Dmi) : Bool :=
  [ "AURA1501", "EDUBOOK1502", "NL5xRU", "NV4XMB,ME,MZ", "L140CU", "NS50MU",
    "NS50_70MU", "PCX0DX", "PCx0Dx_GN20", "L14xMU" ].any
      fun name => dmiStringIn dmi .boardName name

/-- `clevo_keyboard_init` up to the registration of the battery hook. -/
def clevoKeyboardInit (dmi : Dmi) (paramKbdBacklightMode : U8)
    (kbdLedState : KbdLedState) : KbdModes KbdLedState := do
  let kbdLedState := { kbdLedState with mode := paramKbdBacklightMode }
  let kbdLedState ← setKbdBacklightMode kbdLedState.mode kbdLedState
  let _ ← evaluateMethod clevoCmdSetEventsEnabled 0
  if performanceProfileSetWorkaround dmi = true then
    let _ ← evaluateMethod clevoCmdOpt 0x19000002
    return kbdLedState
  else
    return kbdLedState

/-! ## Sessions -/

/-- The stores of a session one after the other. -/
def storeModes : List (String × Nat) → KbdLedState → KbdModes KbdLedState
  | [], kbdLedState => pure kbdLedState
  | store :: rest, kbdLedState => do
      let stored ← setKbdBacklightModeFs store.1 store.2 kbdLedState
      storeModes rest stored.2

def modeSession (dmi : Dmi) (param : KbdMode)
    (stores : List (String × Nat)) (kbdLedState : KbdLedState) :
    KbdModes KbdLedState := do
  let kbdLedState ← clevoKeyboardInit dmi param.val kbdLedState
  storeModes stores kbdLedState

/-! ## What a session sends and shows -/

/-- The word of a call that sets something of the keyboard LEDs. -/
def modeWord : Event kbdModeSignature → Option U32
  | ⟨.clevoEvaluateMethod cmd arg, _⟩ =>
      if cmd = clevoCmdSetKbRgbLeds then some arg else none
  | ⟨.beyondTable _, _⟩ => none

/-- The mode that a call sets, if the firmware accepts it. -/
def acceptedMode : Event kbdModeSignature → Option U8
  | ⟨.clevoEvaluateMethod cmd arg, status⟩ =>
      if cmd = clevoCmdSetKbRgbLeds ∧ status = (0 : Int) then
        (kbdBacklightModes.find? fun entry => entry.value == arg).map
          KbdBacklightMode.key
      else none
  | ⟨.beyondTable _, _⟩ => none

/-- The mode that was accepted last. -/
def lastAccepted (initial : U8) (trace : List (Event kbdModeSignature)) :
    U8 :=
  (trace.filterMap acceptedMode).getLast?.getD initial

/-- The word that a store of this text is to send. -/
def wantedWord (buffer : String) : Option U32 :=
  match kstrtouint buffer 0 with
  | .error _ => none
  | .ok number => some (KbdMode.clamped number.toNat).entry.value

section Bookkeeping

variable {σ : Type} (environment : Environment kbdModeSignature σ)
  (dmi : Dmi) (param : KbdMode) (stores : List (String × Nat))
  (kbdLedState : KbdLedState) (state : σ)

def sessionTrace : List (Event kbdModeSignature) :=
  (modeSession dmi param stores kbdLedState).trace environment state

/-- The parameter and then every stored number selects its mode, the table is
not left, and the accepted mode is shown. -/
structure ModeBookkeeping : Prop where
  sent :
    (sessionTrace environment dmi param stores kbdLedState state).filterMap
        modeWord =
      param.entry.value :: (stores.map Prod.fst).filterMap wantedWord
  inTable :
    ∀ event ∈ sessionTrace environment dmi param stores kbdLedState state,
      ∀ index, event.request ≠ .beyondTable index
  shown :
    listKbdBacklightModesFs
        ((modeSession dmi param stores kbdLedState).run environment state).1 =
      sysfsEmitByte
        (lastAccepted param.val
          (sessionTrace environment dmi param stores kbdLedState state))

end Bookkeeping

/-! ## Words of the table -/

namespace KbdMode

theorem entry_value_injective {first second : KbdMode}
    (same : first.entry.value = second.entry.value) : first = second := by
  have distinct :
      ∀ first second : Fin kbdBacklightModes.length,
        (kbdBacklightModes.get first).value =
          (kbdBacklightModes.get second).value → first = second := by
    decide
  have sameIndex :=
    distinct ⟨first.val.toNat, first.property⟩
      ⟨second.val.toNat, second.property⟩ same
  have sameNumber : first.val.toNat = second.val.toNat :=
    Fin.mk.inj sameIndex
  exact Subtype.ext (BitVec.eq_of_toNat_eq sameNumber)

/-- A mode is found again by its word. -/
theorem key_of_value (mode : KbdMode) :
    (kbdBacklightModes.find? fun entry => entry.value == mode.entry.value).map
        KbdBacklightMode.key =
      some mode.val := by
  have keys :
      ∀ index : Fin kbdBacklightModes.length,
        (kbdBacklightModes.find? fun entry =>
            entry.value == (kbdBacklightModes.get index).value).map
            KbdBacklightMode.key =
          some (BitVec.ofNat 8 index.val) := by
    decide
  have found := keys ⟨mode.val.toNat, mode.property⟩
  rw [BitVec.ofNat_toNat, BitVec.setWidth_eq] at found
  exact found

theorem toNat_clamped (number : Nat) :
    (clamped number).val.toNat = min number 7 := by
  have small : min number 7 < 256 := by
    omega
  rw [clamped, BitVec.toNat_ofNat, Nat.mod_eq_of_lt small]

theorem clamped_eq_iff (first second : Nat) :
    clamped first = clamped second ↔ min first 7 = min second 7 := by
  rw [← toNat_clamped, ← toNat_clamped, BitVec.toNat_inj, Subtype.ext_iff]

end KbdMode

/-- A stored number is cast, and only then clamped. -/
theorem clampU8_eq_clamped (number : U32) :
    clampU8 number 0 (BitVec.ofNat 32 (kbdBacklightModes.length - 1)) =
      (KbdMode.clamped (number.toNat % 256)).val := by
  have eachByte : ∀ byte : U8,
      clamp byte 0 7 = BitVec.ofNat 8 (min byte.toNat 7) := by
    decide
  have narrowed : (number.setWidth 8).toNat = number.toNat % 256 :=
    BitVec.toNat_setWidth 8 number
  have clamped := eachByte (number.setWidth 8)
  rw [narrowed] at clamped
  exact clamped

/-- The word that a store of this text sends. -/
def storedWord (buffer : String) : Option U32 :=
  match kstrtouint buffer 0 with
  | .error _ => none
  | .ok number => some (KbdMode.clamped (number.toNat % 256)).entry.value

/-- A number below 256, or one whose low byte selects the last mode. -/
def ModeInRange (buffer : String) : Prop :=
  ∀ number, kstrtouint buffer 0 = .ok number →
    number.toNat < 256 ∨ 7 ≤ number.toNat % 256

theorem storedWord_eq_wantedWord_iff (buffer : String) :
    storedWord buffer = wantedWord buffer ↔ ModeInRange buffer := by
  unfold storedWord wantedWord ModeInRange
  cases parsed : kstrtouint buffer 0 with
  | error err =>
      exact iff_of_true rfl nofun
  | ok number =>
      have sameMode :
          KbdMode.clamped (number.toNat % 256) =
              KbdMode.clamped number.toNat ↔
            number.toNat < 256 ∨ 7 ≤ number.toNat % 256 := by
        rw [KbdMode.clamped_eq_iff]
        omega
      constructor
      · intro sameWord other same
        cases same
        apply sameMode.mp
        exact KbdMode.entry_value_injective (Option.some.inj sameWord)
      · intro inRange
        have same := sameMode.mpr (inRange number rfl)
        exact congrArg (fun mode => some (KbdMode.entry mode).value) same

/-- Two words for every text that is a number. -/
theorem filterMap_words_eq_iff (buffers : List String) :
    buffers.filterMap storedWord = buffers.filterMap wantedWord ↔
      ∀ buffer ∈ buffers, ModeInRange buffer := by
  induction buffers with
  | nil =>
      exact iff_of_true rfl nofun
  | cons buffer rest inductionHypothesis =>
      rw [List.forall_mem_cons, ← inductionHypothesis,
        ← storedWord_eq_wantedWord_iff]
      cases parsed : kstrtouint buffer 0 with
      | error err =>
          simp [storedWord, wantedWord, parsed]
      | ok number =>
          simp [storedWord, wantedWord, parsed]

/-! ## Calls of a session -/

theorem lastAccepted_append (initial : U8)
    (first second : List (Event kbdModeSignature)) :
    lastAccepted initial (first ++ second) =
      lastAccepted (lastAccepted initial first) second := by
  unfold lastAccepted
  rw [List.filterMap_append, List.getLast?_append]
  cases (second.filterMap acceptedMode).getLast? with
  | none =>
      rfl
  | some mode =>
      rfl

section Sessions

variable {σ : Type} (environment : Environment kbdModeSignature σ)
  (kbdLedState : KbdLedState) (state : σ)

/-- What the firmware answers to the word of a mode. -/
def modeStatus (mode : KbdMode) : Int :=
  (environment
    (.clevoEvaluateMethod clevoCmdSetKbRgbLeds mode.entry.value) state).1

/-- The call that a mode makes. -/
def modeCall (mode : KbdMode) : Event kbdModeSignature :=
  ⟨.clevoEvaluateMethod clevoCmdSetKbRgbLeds mode.entry.value,
    modeStatus environment state mode⟩

theorem acceptedMode_modeCall (mode : KbdMode) :
    acceptedMode (modeCall environment state mode) =
      if modeStatus environment state mode = 0 then some mode.val
      else none := by
  have unfolded :
      acceptedMode (modeCall environment state mode) =
        if clevoCmdSetKbRgbLeds = clevoCmdSetKbRgbLeds ∧
            modeStatus environment state mode = 0 then
          (kbdBacklightModes.find? fun entry =>
            entry.value == mode.entry.value).map KbdBacklightMode.key
        else none := by
    rfl
  rw [unfolded, mode.key_of_value]
  simp only [true_and]

theorem modeAt_mode (mode : KbdMode) :
    modeAt mode.val = pure mode.entry :=
  dif_pos mode.property

theorem trace_setKbdBacklightMode (mode : KbdMode) :
    (setKbdBacklightMode mode.val kbdLedState).trace environment state =
      [modeCall environment state mode] := by
  rw [setKbdBacklightMode, modeAt_mode, pure_bind, Program.trace_bind,
    Program.trace_ite]
  simp only [Program.trace_pure, ite_self]
  rfl

/-- The mode changes to one that the firmware accepts. -/
theorem mode_setKbdBacklightMode (mode : KbdMode) :
    ((setKbdBacklightMode mode.val kbdLedState).run environment
        state).1.mode =
      lastAccepted kbdLedState.mode [modeCall environment state mode] := by
  have run :
      ((setKbdBacklightMode mode.val kbdLedState).run environment state).1 =
        if modeStatus environment state mode = 0 then
          { kbdLedState with mode := mode.val }
        else kbdLedState := by
    rw [setKbdBacklightMode, modeAt_mode, pure_bind, Program.run_bind,
      Program.run_ite]
    exact apply_ite Prod.fst _ _ _
  rw [run, lastAccepted, List.filterMap_cons, acceptedMode_modeCall]
  by_cases accepts : modeStatus environment state mode = 0
  · rw [if_pos accepts, if_pos accepts]
    rfl
  · rw [if_neg accepts, if_neg accepts]
    rfl

/-- The words that a program sends, and the mode that it leaves. -/
structure SetsModes {α : Type} (program : KbdModes α)
    (ledState : α → KbdLedState) (words : List U32) (before : U8)
    (state : σ) : Prop where
  sent : (program.trace environment state).filterMap modeWord = words
  inTable : ∀ event ∈ program.trace environment state,
    ∀ index, event.request ≠ .beyondTable index
  shown : (ledState (program.run environment state).1).mode =
    lastAccepted before (program.trace environment state)

variable {environment} {state}

theorem SetsModes.pure {α : Type} (value : α)
    (ledState : α → KbdLedState) :
    SetsModes environment (Pure.pure value) ledState []
      (ledState value).mode state :=
  ⟨rfl, nofun, rfl⟩

theorem SetsModes.bind {α β : Type} {program : KbdModes α}
    {rest : α → KbdModes β} {ledState : α → KbdLedState}
    {restLedState : β → KbdLedState} {words restWords : List U32}
    {before : U8}
    (first : SetsModes environment program ledState words before state)
    (second :
      SetsModes environment (rest (program.run environment state).1)
        restLedState restWords
        (ledState (program.run environment state).1).mode
        (program.run environment state).2) :
    SetsModes environment (program >>= rest) restLedState
      (words ++ restWords) before state := by
  constructor
  · rw [Program.trace_bind, List.filterMap_append, first.sent, second.sent]
  · intro event member
    rw [Program.trace_bind] at member
    rcases List.mem_append.mp member with earlier | later
    · exact first.inTable event earlier
    · exact second.inTable event later
  · rw [Program.run_bind, Program.trace_bind, lastAccepted_append,
      ← first.shown]
    exact second.shown

variable (environment) (state)

theorem setKbdBacklightMode_setsModes (mode : KbdMode) :
    SetsModes environment (setKbdBacklightMode mode.val kbdLedState) id
      [mode.entry.value] kbdLedState.mode state := by
  constructor
  · rw [trace_setKbdBacklightMode]
    rfl
  · intro event member
    rw [trace_setKbdBacklightMode] at member
    cases List.mem_singleton.mp member
    exact nofun
  · rw [trace_setKbdBacklightMode]
    exact mode_setKbdBacklightMode environment kbdLedState state mode

/-- A call of another method. -/
theorem evaluateMethod_setsModes {cmd : U8} (arg : U32)
    (other : cmd ≠ clevoCmdSetKbRgbLeds) :
    SetsModes environment (evaluateMethod cmd arg) (fun _ => kbdLedState) []
      kbdLedState.mode state := by
  have noWord : ∀ status : Int,
      modeWord ⟨.clevoEvaluateMethod cmd arg, status⟩ = none :=
    fun _ => if_neg other
  have noMode : ∀ status : Int,
      acceptedMode ⟨.clevoEvaluateMethod cmd arg, status⟩ = none :=
    fun _ => if_neg fun both => other both.1
  constructor
  · exact List.filterMap_cons_none (noWord _)
  · intro event member
    cases List.mem_singleton.mp member
    exact nofun
  · have nothing :
        ((evaluateMethod cmd arg).trace environment state).filterMap
          acceptedMode = [] :=
      List.filterMap_cons_none (noMode _)
    rw [lastAccepted, nothing]
    rfl

theorem setKbdBacklightModeFs_setsModes (buffer : String) (size : Nat) :
    SetsModes environment (setKbdBacklightModeFs buffer size kbdLedState)
      Prod.snd (storedWord buffer).toList kbdLedState.mode state := by
  unfold setKbdBacklightModeFs storedWord
  cases parsed : kstrtouint buffer 0 with
  | error err =>
      exact SetsModes.pure (err, kbdLedState) Prod.snd
  | ok number =>
      simp only [clampU8_eq_clamped]
      have stored :=
        setKbdBacklightMode_setsModes environment kbdLedState state
          (KbdMode.clamped (number.toNat % 256))
      exact stored.bind (SetsModes.pure _ Prod.snd)

theorem storeModes_setsModes (stores : List (String × Nat)) :
    SetsModes environment (storeModes stores kbdLedState) id
      ((stores.map Prod.fst).filterMap storedWord) kbdLedState.mode
      state := by
  induction stores generalizing kbdLedState state with
  | nil =>
      exact SetsModes.pure kbdLedState id
  | cons store rest inductionHypothesis =>
      have words :
          ((store :: rest).map Prod.fst).filterMap storedWord =
            (storedWord store.1).toList ++
              (rest.map Prod.fst).filterMap storedWord := by
        rw [List.map_cons, List.filterMap_cons]
        cases storedWord store.1 <;> rfl
      rw [words]
      have first :=
        setKbdBacklightModeFs_setsModes environment kbdLedState state
          store.1 store.2
      exact first.bind (inductionHypothesis _ _)

/-- The parameter is the mode before the firmware is asked. -/
theorem clevoKeyboardInit_setsModes (dmi : Dmi) (param : KbdMode) :
    SetsModes environment (clevoKeyboardInit dmi param.val kbdLedState) id
      [param.entry.value] param.val state := by
  have eventsOther : clevoCmdSetEventsEnabled ≠ clevoCmdSetKbRgbLeds := by
    decide
  have optOther : clevoCmdOpt ≠ clevoCmdSetKbRgbLeds := by
    decide
  let workaround : KbdLedState → KbdModes KbdLedState := fun reached =>
    if performanceProfileSetWorkaround dmi = true then do
      let _ ← evaluateMethod clevoCmdOpt 0x19000002
      return reached
    else return reached
  have workaroundCalls : ∀ (reached : KbdLedState) (later : σ),
      SetsModes environment (workaround reached) id [] reached.mode later := by
    intro reached later
    unfold workaround
    split
    · exact (evaluateMethod_setsModes environment reached later _
        optOther).bind (SetsModes.pure reached id)
    · exact SetsModes.pure reached id
  have afterMode : ∀ (reached : KbdLedState) (later : σ),
      SetsModes environment
        (evaluateMethod clevoCmdSetEventsEnabled 0 >>= fun _ =>
          workaround reached) id [] reached.mode later := by
    intro reached later
    exact (evaluateMethod_setsModes environment reached later 0
      eventsOther).bind (workaroundCalls reached _)
  have first :=
    setKbdBacklightMode_setsModes environment ⟨param.val⟩ state param
  exact first.bind (afterMode _ _)

theorem modeSession_setsModes (dmi : Dmi) (param : KbdMode)
    (stores : List (String × Nat)) :
    SetsModes environment (modeSession dmi param stores kbdLedState) id
      (param.entry.value :: (stores.map Prod.fst).filterMap storedWord)
      param.val state :=
  (clevoKeyboardInit_setsModes environment kbdLedState state dmi param).bind
    (storeModes_setsModes environment _ _ stores)

/-- The bookkeeping is right exactly if every stored number selects the same
mode before and after it is cast to a byte. -/
theorem modeBookkeeping_iff (dmi : Dmi) (param : KbdMode)
    (stores : List (String × Nat)) :
    ModeBookkeeping environment dmi param stores kbdLedState state ↔
      ∀ buffer ∈ stores.map Prod.fst, ModeInRange buffer := by
  have session :=
    modeSession_setsModes environment kbdLedState state dmi param stores
  rw [← filterMap_words_eq_iff]
  constructor
  · intro bookkeeping
    have sent := session.sent.symm.trans bookkeeping.sent
    exact (List.cons.inj sent).2
  · intro sameWords
    constructor
    · rw [← sameWords]
      exact session.sent
    · exact session.inTable
    · exact congrArg sysfsEmitByte session.shown

end Sessions

/-- A firmware of the WMI interface that accepts every call. -/
def acceptingFirmware : Firmware Unit
  | .wmiEvaluateMethod _ _, state => (.success (some (.integer 0)), state)
  | .acpiEvaluateDsm _ _, state => (none, state)
  | .activeDriverData, state => (false, state)
  | .acpiDeviceHandle, state => (false, state)
  | .strayObject, state => (.other, state)
  | .strayByte, state => (0, state)
  | .acpiFree _, state => ((), state)

/-- 256 is beyond the table, and selects the first mode. -/
theorem not_modeBookkeeping_256 :
    ¬ ModeBookkeeping
      (kbdModeEnvironment (some .wmi) acceptingFirmware
        fun _ => ⟨0, 0, ""⟩)
      (fun _ => none) ⟨0, by decide⟩ [("256", 3)] {} () := by
  intro bookkeeping
  have words := bookkeeping.sent
  revert words
  decide

end TuxedoDrivers.Clevo
