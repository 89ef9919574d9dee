import TuxedoDrivers.Interaction.Monitors
import TuxedoDrivers.Nb04.StatusMethods

/-!
# The keyboard backlight of the NB04 machines

The firmware wants the status of the keyboard to be read before anything is
written.  The read is repeated while the type of the keyboard is not a valid
one, and only a read with a valid type gets the driver as far as a write.
-/

namespace TuxedoDrivers.Nb04

open Interaction
open TuxedoDrivers.Wmi

/-! ## Methods -/

abbrev wmiDeviceTypeIdKeyboard : U8 := 2

abbrev wmiKeyboardTypeMax : U8 := 4

/-- `struct device_keyboard_status_t`. -/
structure DeviceKeyboardStatus where
  keyboardStateEnabled : Bool
  keyboardType : U8
  keyboardSidebarSupport : Bool
  keyboardMatrix : U8
  deriving DecidableEq, Repr

def keyboardStatusInput : Vector U8 abInputBufferLengthNormal :=
  #v[wmiDeviceTypeIdKeyboard, 0, 0, 0, 0, 0, 0, 0]

def keyboardStatusOf (out : List U8) : DeviceKeyboardStatus :=
  { keyboardStateEnabled := decide (out.getD 2 0 = 1)
    keyboardType := out.getD 3 0
    keyboardSidebarSupport := decide (out.getD 4 0 = 1)
    keyboardMatrix := out.getD 5 0 }

/-- The reads of the status with `retryCount` tries left, after all of which
the type was invalid. -/
def readKeyboardStatus :
    (retryCount : Nat) → Methods (Except Int DeviceKeyboardStatus)
  | 0 => return .error (-enodev)
  | retryCount + 1 => do
      match ← nb04WmiAbMethodBuffer 2 keyboardStatusInput with
      | .error result => return .error result
      | .ok out =>
          if (wordOfBytes (out.getD 1 0) (out.getD 0 0)).toNat ≠
              wmiReturnStatusSuccess then
            return .error (-eio)
          else if out.getD 3 0 < wmiKeyboardTypeMax then
            return .ok (keyboardStatusOf out)
          else
            readKeyboardStatus retryCount

def wmiUpdateDeviceStatusKeyboard :
    Methods (Except Int DeviceKeyboardStatus) :=
  readKeyboardStatus 3

/-- The input for a color and a brightness: an unknown brightness is not
set, and zero disables. -/
def wholeKeyboardInput (red green blue : U8) (brightness : Int) :
    Vector U8 abInputBufferLengthNormal :=
  let enableByte : U8 := if brightness = 0 then 0x00 else 0x01
  let brightnessByte : U8 :=
    if brightness > 0 ∧ brightness ≤ 10 then BitVec.ofInt 8 brightness
    else 0xfe
  #v[0x00, red, green, blue, brightnessByte, 0xfe, 0x00, enableByte]

def wmiSetWholeKeyboard (red green blue : U8) (brightness : Int) :
    Methods Int := do
  match ← nb04WmiAbMethodIntOut 3
      (wholeKeyboardInput red green blue brightness) with
  | .error result => return result
  | .ok out =>
      if out ≠ 0 then
        return -eio
      else
        return 0

/-! ## The LED device -/

abbrev keyboardMaxBrightness : U32 := 0x0a

/-- What the LED class keeps of the keyboard. -/
structure KeyboardLed where
  red : U32 := 0xff
  green : U32 := 0xff
  blue : U32 := 0xff
  brightness : U32 := 0x00
  deriving DecidableEq, Repr

def ledsSetBrightnessMcKeyboard (led : KeyboardLed) (brightness : U32) :
    Methods Unit := do
  let _ ← wmiSetWholeKeyboard (led.red.setWidth 8) (led.green.setWidth 8)
    (led.blue.setWidth 8) brightness.toInt
  return ()

/-- `registered` is what the registration of the LED device returns. -/
def tuxedoNb04KbdBacklightProbe (allocated : Bool) (registered : Int) :
    Methods Int := do
  if allocated = false then
    return -enomem
  else
    -- The status is needed for the firmware to be written to
    match ← wmiUpdateDeviceStatusKeyboard with
    | .error result => return result
    | .ok _ => return registered

/-- What is stored to the LED device. -/
inductive KeyboardStore where
  | brightness (value : U32)
  | multiIntensity (red green blue : U32)
  deriving DecidableEq, Repr

/-- The LED core keeps what is stored, a brightness limited, and calls the
driver. -/
def KeyboardLed.stored (led : KeyboardLed) : KeyboardStore → KeyboardLed
  | .brightness value =>
      { led with
        brightness :=
          if value < keyboardMaxBrightness then value
          else keyboardMaxBrightness }
  | .multiIntensity red green blue => { led with red, green, blue }

def keyboardStore (led : KeyboardLed) (store : KeyboardStore) :
    Methods KeyboardLed := do
  let led := led.stored store
  ledsSetBrightnessMcKeyboard led led.brightness
  return led

/-- Everything the driver does: there is an LED device only after a probe
that succeeded. -/
def keyboardLife (allocated : Bool) (registered : Int)
    (stores : List KeyboardStore) : Methods (Option KeyboardLed) := do
  let result ← tuxedoNb04KbdBacklightProbe allocated registered
  if result ≠ 0 then
    return none
  else
    let led ← stores.foldlM keyboardStore {}
    return some led

/-! ## The protocol -/

/-- The status that a reply gives, if it is one of a keyboard. -/
def statusOfReply (reply : Reply) : Option DeviceKeyboardStatus :=
  match reply.buffer abOutputBufferLength (-eio) with
  | .error _ => none
  | .ok out =>
      if StatusSuccess out ∧ out.getD 3 0 < wmiKeyboardTypeMax then
        some (keyboardStatusOf out)
      else none

theorem statusOfReply_isSome_iff {reply : Reply} {out : List U8}
    (isOk : reply.buffer abOutputBufferLength (-eio) = .ok out) :
    (statusOfReply reply).isSome = true ↔
      StatusSuccess out ∧ out.getD 3 0 < wmiKeyboardTypeMax := by
  unfold statusOfReply
  rw [isOk]
  dsimp only
  by_cases valid : StatusSuccess out ∧ out.getD 3 0 < wmiKeyboardTypeMax
  · rw [if_pos valid]
    exact iff_of_true rfl valid
  · rw [if_neg valid]
    exact iff_of_false Bool.false_ne_true valid

/-- A read of the status that made the firmware ready. -/
def ReadsStatus : Event wmiSignature → Prop
  | ⟨.evaluateMethod _ 2 input, reply⟩ =>
      input = keyboardStatusInput.toList ∧ (statusOfReply reply).isSome = true
  | _ => False

/-- The input of a write: a brightness that the keyboard has together with
the enable byte, or none together with the disabling one. -/
def IsWholeKeyboard (input : List U8) : Prop :=
  ∃ red green blue brightness enable : U8,
    input = [0x00, red, green, blue, brightness, 0xfe, 0x00, enable] ∧
      (enable = 1 ∧ 0 < brightness ∧ brightness ≤ 10 ∨
        enable = 0 ∧ brightness = 0xfe)

/-- What the firmware was told so far. -/
inductive KeyboardPhase where
  | unread (tries : Nat)
  | ready
  deriving DecidableEq, Repr

/-- A read uses up one of the tries until one succeeds; a write is let pass
after it. -/
def KeyboardPhase.lets : Monitor wmiSignature KeyboardPhase
  | .unread (tries + 1), ⟨.evaluateMethod _ 2 input, reply⟩, next =>
      input = keyboardStatusInput.toList ∧
        next = if (statusOfReply reply).isSome = true then .ready
          else .unread tries
  | .ready, ⟨.evaluateMethod _ 3 input, _⟩, next =>
      IsWholeKeyboard input ∧ next = .ready
  | phase, ⟨.getWmiDev, _⟩, next => next = phase
  | _, _, _ => False

section Follows

open KeyboardPhase (lets)

theorem follows_wmiMethod {α : Type} {result : Reply → Except Int α}
    {wmiMethodId : U32} {input : List U8} {phase : KeyboardPhase}
    {post : Except Int α → KeyboardPhase → Prop}
    (absent : post (.error (-enodev)) phase)
    (evaluated : ∀ device reply, ∃ next,
      lets phase ⟨.evaluateMethod device wmiMethodId input, reply⟩ next ∧
        post (result reply) next) :
    (wmiMethod result wmiMethodId input).Follows lets post phase := by
  intro wmiDev
  have asked : lets phase ⟨.getWmiDev, wmiDev⟩ phase := by
    cases phase with
    | unread tries => cases tries <;> rfl
    | ready => rfl
  refine ⟨phase, asked, ?_⟩
  cases wmiDev with
  | none => exact absent
  | some device => exact evaluated device

theorem buffer_error_ne_zero {reply : Reply} {err : Int}
    (failed : reply.buffer abOutputBufferLength (-eio) = .error err) :
    err ≠ 0 := by
  unfold Reply.buffer at failed
  split at failed
  case h_3 bytes =>
    by_cases length : bytes.length = abOutputBufferLength
    · rw [if_pos length] at failed
      cases failed
    · rw [if_neg length] at failed
      cases failed
      decide
  all_goals
    cases failed
    decide

/-- With a status the firmware is ready, and an error is none. -/
def ReadyOrError (result : Except Int DeviceKeyboardStatus)
    (phase : KeyboardPhase) : Prop :=
  match result with
  | .ok _ => phase = .ready
  | .error err => err ≠ 0

/-- The phase after a read with an output, and an error is none. -/
def ReadOrError (retryCount : Nat) (result : Except Int (List U8))
    (phase : KeyboardPhase) : Prop :=
  match result with
  | .ok out =>
      phase =
        if StatusSuccess out ∧ out.getD 3 0 < wmiKeyboardTypeMax then .ready
        else .unread retryCount
  | .error err => err ≠ 0

theorem follows_readKeyboardStatus (retryCount : Nat) :
    (readKeyboardStatus retryCount).Follows lets ReadyOrError
      (.unread retryCount) := by
  have noDevice : -enodev ≠ 0 := by decide
  have failed : -eio ≠ 0 := by decide
  induction retryCount with
  | zero => exact noDevice
  | succ retryCount inductionHypothesis =>
      have read :
          (nb04WmiAbMethodBuffer 2 keyboardStatusInput).Follows lets
            (ReadOrError retryCount) (.unread (retryCount + 1)) := by
        apply follows_wmiMethod noDevice
        intro device reply
        refine ⟨_, ⟨rfl, rfl⟩, ?_⟩
        cases result : reply.buffer abOutputBufferLength (-eio) with
        | error err => exact buffer_error_ne_zero result
        | ok out => exact if_congr (statusOfReply_isSome_iff result) rfl rfl
      apply read.bind
      intro result phase known
      cases result with
      | error err => exact known
      | ok out =>
          apply Program.Follows.ite
          · exact fun _ => failed
          · intro success
            have isSuccess : StatusSuccess out :=
              statusSuccess_iff.mpr (not_not.mp success)
            apply Program.Follows.ite
            · intro valid
              exact known.trans (if_pos ⟨isSuccess, valid⟩)
            · intro invalid
              have unread : phase = .unread retryCount :=
                known.trans (if_neg fun both => invalid both.2)
              rw [unread]
              exact inductionHypothesis

theorem isWholeKeyboard_input (red green blue : U8) {brightness : U32}
    (limited : brightness.toNat ≤ 10) :
    IsWholeKeyboard
      (wholeKeyboardInput red green blue brightness.toInt).toList := by
  have small : brightness.toInt = brightness.toNat := by
    rw [BitVec.toInt_eq_toNat_cond, if_pos (by omega)]
  unfold wholeKeyboardInput
  rw [small]
  by_cases isZero : brightness.toNat = 0
  · refine ⟨red, green, blue, 0xfe, 0, ?_, Or.inr ⟨rfl, rfl⟩⟩
    rw [isZero]
    rfl
  · have positive : (brightness.toNat : Int) > 0 ∧
        (brightness.toNat : Int) ≤ 10 := by
      omega
    have notZero : ¬ (brightness.toNat : Int) = 0 := by
      omega
    have byteBound : (BitVec.ofInt 8 (brightness.toNat : Int)).toNat =
        brightness.toNat := by
      rw [BitVec.ofInt_natCast, BitVec.toNat_ofNat]
      omega
    refine
      ⟨red, green, blue, BitVec.ofInt 8 (brightness.toNat : Int), 1, ?_,
        Or.inl ⟨rfl, ?_, ?_⟩⟩
    · rw [if_neg notZero, if_pos positive]
      rfl
    · rw [BitVec.lt_def, byteBound]
      change 0 < brightness.toNat
      omega
    · rw [BitVec.le_def, byteBound]
      exact limited

theorem stored_limited {led : KeyboardLed}
    (limited : led.brightness.toNat ≤ 10) (store : KeyboardStore) :
    (led.stored store).brightness.toNat ≤ 10 := by
  cases store with
  | multiIntensity red green blue => exact limited
  | brightness value =>
      rw [KeyboardLed.stored]
      by_cases below : value < keyboardMaxBrightness
      · have strictly : value.toNat < 10 := below
        simp only [if_pos below]
        omega
      · simp only [if_neg below]
        decide

theorem follows_keyboardStore (led : KeyboardLed) (store : KeyboardStore)
    (phase : KeyboardPhase)
    (found : led.brightness.toNat ≤ 10 ∧ phase = .ready) :
    (keyboardStore led store).Follows lets
      (fun led phase => led.brightness.toNat ≤ 10 ∧ phase = .ready) phase := by
  obtain ⟨limited, rfl⟩ := found
  have stored := stored_limited limited store
  have write :
      (nb04WmiAbMethodIntOut 3
        (wholeKeyboardInput ((led.stored store).red.setWidth 8)
          ((led.stored store).green.setWidth 8)
          ((led.stored store).blue.setWidth 8)
          (led.stored store).brightness.toInt)).Follows lets
        (fun _ phase => phase = .ready) .ready := by
    apply follows_wmiMethod rfl
    intro device reply
    exact ⟨.ready, ⟨isWholeKeyboard_input _ _ _ stored, rfl⟩, rfl⟩
  have writes :
      (ledsSetBrightnessMcKeyboard (led.stored store)
        (led.stored store).brightness).Follows lets
        (fun _ phase => phase = .ready) .ready := by
    refine Program.Follows.bind (Program.Follows.bind write ?_)
      fun _ _ still => still
    intro result phase still
    cases result with
    | error err => exact still
    | ok out =>
        exact Program.Follows.ite (fun _ => still) fun _ => still
  exact writes.bind fun _ _ still => ⟨stored, still⟩

theorem follows_probe (allocated : Bool) (registered : Int) :
    (tuxedoNb04KbdBacklightProbe allocated registered).Follows lets
      (fun result phase => result = 0 → phase = .ready) (.unread 3) := by
  have noMemory : -enomem ≠ 0 := by decide
  apply Program.Follows.ite
  · exact fun _ isZero => absurd isZero noMemory
  · intro _
    apply (follows_readKeyboardStatus 3).bind
    intro result phase known
    cases result with
    | error err => exact fun isZero => absurd isZero known
    | ok status => exact fun _ => known

theorem follows_keyboardLife (allocated : Bool) (registered : Int)
    (stores : List KeyboardStore) :
    (keyboardLife allocated registered stores).Follows lets
      (fun _ _ => True) (.unread 3) := by
  apply (follows_probe allocated registered).bind
  intro result phase probed
  apply Program.Follows.ite
  · exact fun _ => trivial
  · intro succeeds
    have ready := probed (not_not.mp succeeds)
    have limited : ({} : KeyboardLed).brightness.toNat ≤ 10 := by decide
    have stored :=
      Program.Follows.foldlM follows_keyboardStore stores ⟨limited, ready⟩
    exact stored.bind fun _ _ _ => trivial

end Follows

/-! ## Reads before writes -/

/-- The steps of the protocol. -/
theorem KeyboardPhase.lets_cases {now next : KeyboardPhase}
    {event : Event wmiSignature} (passed : lets now event next) :
    (event.request = .getWmiDev ∧ next = now) ∨
      (∃ tries device reply, now = .unread (tries + 1) ∧
        event =
          ⟨.evaluateMethod device 2 keyboardStatusInput.toList, reply⟩ ∧
        next = if (statusOfReply reply).isSome = true then .ready
          else .unread tries) ∨
      ∃ device input reply, now = .ready ∧
        event = ⟨.evaluateMethod device 3 input, reply⟩ ∧
        IsWholeKeyboard input ∧ next = .ready := by
  unfold lets at passed
  split at passed
  case h_1 tries device input reply =>
    obtain ⟨rfl, isNext⟩ := passed
    exact Or.inr (Or.inl ⟨tries, device, reply, rfl, rfl, isNext⟩)
  case h_2 device input reply =>
    exact
      Or.inr (Or.inr ⟨device, input, reply, rfl, rfl, passed.1, passed.2⟩)
  case h_3 wmiDev _ _ => exact Or.inl ⟨rfl, passed⟩
  case h_4 => exact passed.elim

/-- A call of a method. -/
def isCall (event : Event wmiSignature) : Bool :=
  match event.request with
  | .evaluateMethod _ _ _ => true
  | _ => false

/-- What a phase tells of the events so far. -/
def KeyboardPhase.Known (phase : KeyboardPhase)
    (log : List (Event wmiSignature)) : Prop :=
  match phase with
  | .unread tries =>
      (log.filter isCall).length + tries ≤ 3 ∧
        ∀ event ∈ log, ¬ ReadsStatus event
  | .ready => ∃ read ∈ log, ReadsStatus read

theorem KeyboardPhase.Known.step {now next : KeyboardPhase}
    {log : List (Event wmiSignature)} {event : Event wmiSignature}
    (known : now.Known log) (passed : lets now event next) :
    next.Known (log ++ [event]) := by
  rcases lets_cases passed with
    ⟨isQuery, rfl⟩ | ⟨tries, device, reply, rfl, rfl, isNext⟩ |
    ⟨device, input, reply, rfl, rfl, -, rfl⟩
  · have noCall : isCall event = false := by
      rw [isCall, isQuery]
    have noRead : ¬ ReadsStatus event := by
      rcases event with ⟨request, answer⟩
      cases isQuery
      exact id
    cases next with
    | ready =>
        obtain ⟨read, inLog, isRead⟩ := known
        exact ⟨read, List.mem_append_left _ inLog, isRead⟩
    | unread tries =>
        constructor
        · rw [List.filter_append, List.filter_singleton, noCall]
          simpa using known.1
        · intro other inLog
          rcases List.mem_append.mp inLog with earlier | last
          · exact known.2 other earlier
          · rw [List.mem_singleton.mp last]
            exact noRead
  · subst isNext
    by_cases isStatus : (statusOfReply reply).isSome = true
    · rw [if_pos isStatus]
      exact
        ⟨_, List.mem_append_right _ (List.mem_singleton_self _), rfl,
          isStatus⟩
    · rw [if_neg isStatus]
      constructor
      · have calls := known.1
        rw [List.filter_append, List.length_append]
        change _ + 1 + tries ≤ 3
        omega
      · intro other inLog
        rcases List.mem_append.mp inLog with earlier | last
        · exact known.2 other earlier
        · rw [List.mem_singleton.mp last]
          exact fun isRead => isStatus isRead.2
  · obtain ⟨read, inLog, isRead⟩ := known
    exact ⟨read, List.mem_append_left _ inLog, isRead⟩

/-- Whatever the firmware answers: before a write, the status of the keyboard
was read with success. -/
theorem keyboard_readFirst {σ : Type} (firmware : Environment wmiSignature σ)
    (state : σ) (allocated : Bool) (registered : Int)
    (stores : List KeyboardStore) {before after : List (Event wmiSignature)}
    {device : Device} {wmiMethodId : U32} {input : List U8} {reply : Reply}
    (isEvent :
      (keyboardLife allocated registered stores).trace firmware state =
        before ++ ⟨.evaluateMethod device wmiMethodId input, reply⟩ ::
          after) :
    wmiMethodId = 2 ∧ input = keyboardStatusInput.toList ∧
        (before.filter isCall).length < 3 ∧
        (∀ event ∈ before, ¬ ReadsStatus event) ∨
      wmiMethodId = 3 ∧ IsWholeKeyboard input ∧
        ∃ read ∈ before, ReadsStatus read := by
  obtain ⟨final, reads, -⟩ :=
    (follows_keyboardLife allocated registered stores).run firmware state
  rw [isEvent] at reads
  obtain ⟨now, next, earlier, passed⟩ := reads.event
  have initially : (KeyboardPhase.unread 3).Known [] :=
    ⟨le_refl 3, fun event inNil => nomatch inNil⟩
  have known : now.Known before :=
    earlier.preserves KeyboardPhase.Known KeyboardPhase.Known.step initially
  rcases KeyboardPhase.lets_cases passed with
    ⟨isQuery, -⟩ | ⟨tries, device, reply, rfl, same, -⟩ |
    ⟨device, input, reply, rfl, same, isInput, -⟩
  · cases isQuery
  · cases same
    have calls := known.1
    exact Or.inl ⟨rfl, rfl, by omega, known.2⟩
  · cases same
    exact Or.inr ⟨rfl, isInput, known⟩

/-- A firmware whose first read of the status has an invalid type. -/
def lateFirmware : Environment wmiSignature Nat
  | .getWmiDev, calls => (some 0, calls)
  | .evaluateMethod _ wmiMethodId _, calls =>
      if wmiMethodId = 2 then
        (.success (some (.buffer
          ([0, 0, 1, if calls = 0 then 0xff else 1] ++
            List.replicate 76 0))), calls + 1)
      else (.success (some (.integer 0)), calls + 1)
  | .tuxedoIsCompatible, calls => (true, calls)
  | .wmiHasGuid, calls => (true, calls)
  | .devmKzalloc _, calls => (true, calls)
  | .setWmiDev _, calls => ((), calls)
  | .setDrvdata _, calls => ((), calls)

/-- The write of a brightness, after two reads. -/
theorem keyboard_readFirst_late :
    ∃ before reply,
      (keyboardLife true 0 [.brightness 0x20]).trace lateFirmware 0 =
          before ++
            [⟨.evaluateMethod 0 3 [0, 0xff, 0xff, 0xff, 10, 0xfe, 0, 1],
              reply⟩] ∧
        ∃ read ∈ before, ReadsStatus read := by
  let log := (keyboardLife true 0 [.brightness 0x20]).trace lateFirmware 0
  have isEvent : log = log.take 5 ++
      [⟨.evaluateMethod 0 3 [0, 0xff, 0xff, 0xff, 10, 0xfe, 0, 1],
        .success (some (.integer 0))⟩] :=
    rfl
  refine ⟨log.take 5, .success (some (.integer 0)), isEvent, ?_⟩
  rcases
      keyboard_readFirst lateFirmware 0 true 0 [.brightness 0x20] isEvent with
    ⟨isRead, -⟩ | ⟨-, -, read⟩
  · exact absurd isRead (by decide)
  · exact read

end TuxedoDrivers.Nb04
