import TuxedoDrivers.Keyboard.KeyEvents
import TuxedoDrivers.Nb05.PowerProfiles

/-!
# The keys of the NB04 and the NB05 keyboards

The keymaps of `tuxedo_nb04_keyboard.c` and `tuxedo_nb05_keyboard.c` and what
user space gets of their notifications.  The NB05 driver reports a
notification twice, by the code of the event and by the code together with
the status; its keymap only knows the second.
-/

namespace TuxedoDrivers.WmiKeyboards

open Interaction
open Input
open TuxedoDrivers.Keyboard (Key comboEntries controlCenterCombo)
open TuxedoDrivers.Nb05.PowerProfiles
open TuxedoDrivers.Wmi

/-! ## NB04 -/

def nb04DriverKeymap : List (KeyEntry U32 Key) :=
  [.key 0x07 .f20, .key 0x06 .f21, .key 0x09 .kbdillumDown,
    .key 0x08 .kbdillumUp]

/-- `tuxedo_nb04_keyboard_notify`: the keys it reports. -/
def tuxedoNb04KeyboardNotify (object : Option AcpiObject) :
    List (Report Key) :=
  match object with
  | some (.buffer (_ :: eventCode :: _)) =>
      reportKnown nb04DriverKeymap (eventCode.setWidth 32)
  | _ => []

/-- The key of a notification. -/
def nb04Key (object : Option AcpiObject) : Option Key :=
  match object with
  | some (.buffer (_ :: eventCode :: _)) =>
      keyOf nb04DriverKeymap (eventCode.setWidth 32)
  | _ => none

theorem handleAll_tuxedoNb04KeyboardNotify {device : Device Key}
    (idle : device.Idle) (setup : device.declared = declares nb04DriverKeymap)
    (object : Option AcpiObject) :
    device.handleAll (tuxedoNb04KeyboardNotify object) =
      device.deliver
        ((nb04Key object).elim [] fun key => chordFrames [key]) := by
  unfold tuxedoNb04KeyboardNotify nb04Key
  split
  · exact Device.handleAll_reportKnown idle setup _
  · exact device.deliver_nil.symm

/-! ## NB05 -/

abbrev nb05WmiEventTouchpadToggle : U8 := 0x02

/-- `NB05_WMI_EVENT_TOUCHPAD_ON` and `NB05_WMI_EVENT_TOUCHPAD_OFF`, and the
entries that declare the keys of the combination. -/
def nb05DriverKeymap : List (KeyEntry U32 Key) :=
  [ .key (eventStatusCombo nb05WmiEventTouchpadToggle 0x11) .f22,
    .key (eventStatusCombo nb05WmiEventTouchpadToggle 0x22) .f23 ] ++
    comboEntries

/-- `report_gauge_key_combo`. -/
def reportGaugeKeyCombo : List (Report Key) :=
  [ .key .leftMeta true, .key .leftAlt true, .key .f6 true, .sync,
    .key .f6 false, .key .leftAlt false, .key .leftMeta false, .sync ]

/-- What a request of the notification reports. -/
def requestReports : ProfileRequest → List (Report Key)
  | .reportGaugeKeyCombo => reportGaugeKeyCombo
  | .sparseKeymapReport code => reportKnown nb05DriverKeymap code
  | _ => []

/-- What the rest of the drivers answers. -/
abbrev Answers : Type :=
  (request : ProfileRequest) → request.Answer

/-- The input core beside the rest of the drivers. -/
def keyEnvironment (answers : Answers) :
    Environment profileSignature (Device Key) :=
  fun request device =>
    (answers request, device.handleAll (requestReports request))

/-- The chords of an event with its status.  A change of the mode is the
combination, unless the driver made it, and the touchpad has a key for each
of its two states.  The code of the declaring entries can be put together
from an event and a status, too. -/
def nb05Chords (byDriver : Bool) (eventCode : U8) (status : U16) :
    List (List Key) :=
  if eventCode = nb05WmiEventModePowerSave ∨
      eventCode = nb05WmiEventModeBalance ∨
      eventCode = nb05WmiEventModeHighPerformance then
    if byDriver = true then [] else [controlCenterCombo]
  else if eventCode = nb05WmiEventTouchpadToggle ∧ status = 0x11 then [[.f22]]
  else if eventCode = nb05WmiEventTouchpadToggle ∧ status = 0x22 then [[.f23]]
  else if eventCode = 0xff ∧ status = 0xff then [[.f6]]
  else []

def notificationChords (byDriver : Bool) :
    Option AcpiObject → List (List Key)
  | some (.buffer (_ :: eventCode :: low :: high :: _)) =>
      nb05Chords byDriver eventCode (high ++ low)
  | _ => []

theorem eventStatusCombo_inj {first second : U8} {status status' : U16} :
    eventStatusCombo first status = eventStatusCombo second status' ↔
      first = second ∧ status = status' := by
  constructor
  · intro same
    have bits (position : Nat) :=
      congrArg (fun word => word.getLsbD position) same
    simp only [eventStatusCombo, BitVec.getLsbD_or, BitVec.getLsbD_setWidth,
      BitVec.getLsbD_shiftLeft] at bits
    constructor
    · apply BitVec.eq_of_getLsbD_eq
      intro position bound
      have here := bits position
      have within : position < 32 := by omega
      simpa [bound, within] using here
    · apply BitVec.eq_of_getLsbD_eq
      intro position bound
      have here := bits (position + 8)
      have within : position + 8 < 32 := by omega
      have above : ¬ position + 8 < 8 := by omega
      have high (byte : U8) : byte.getLsbD (position + 8) = false :=
        BitVec.getLsbD_of_ge byte _ (by omega)
      have inStatus : position < 32 := by omega
      simpa [high, within, above, inStatus] using here
  · rintro ⟨rfl, rfl⟩
    rfl

/-- The key of an event with its status. -/
theorem keyOf_eventStatusCombo (eventCode : U8) (status : U16) :
    keyOf nb05DriverKeymap (eventStatusCombo eventCode status) =
      if eventCode = nb05WmiEventTouchpadToggle ∧ status = 0x11 then
        some .f22
      else if eventCode = nb05WmiEventTouchpadToggle ∧ status = 0x22 then
        some .f23
      else if eventCode = 0xff ∧ status = 0xff then some .f6
      else none := by
  have declaring : (0xffff : U32) = eventStatusCombo 0xff 0xff := by decide
  have swap {first second : U8} {status status' : U16} :
      eventStatusCombo first status = eventStatusCombo second status' ↔
        second = first ∧ status' = status := by
    rw [eventStatusCombo_inj, eq_comm, eq_comm (a := status)]
  rw [nb05DriverKeymap, comboEntries, declaring]
  simp only [keyOf, entryFromScancode, List.cons_append, List.nil_append,
    List.find?_cons, KeyEntry.code, swap]
  by_cases touchpadOn :
      eventCode = nb05WmiEventTouchpadToggle ∧ status = 0x11
  · simp only [decide_eq_true touchpadOn, if_pos touchpadOn]
    rfl
  simp only [decide_eq_false touchpadOn, if_neg touchpadOn]
  by_cases touchpadOff :
      eventCode = nb05WmiEventTouchpadToggle ∧ status = 0x22
  · simp only [decide_eq_true touchpadOff, if_pos touchpadOff]
    rfl
  simp only [decide_eq_false touchpadOff, if_neg touchpadOff]
  by_cases isDeclaring : eventCode = 0xff ∧ status = 0xff
  · simp only [decide_eq_true isDeclaring, if_pos isDeclaring]
    rfl
  simp only [decide_eq_false isDeclaring, if_neg isDeclaring]
  rfl

/-- The code of an event by itself is no code of the keymap. -/
theorem keyOf_eventCode (eventCode : U8) :
    keyOf nb05DriverKeymap (eventCode.setWidth 32) = none := by
  have alone : eventCode.setWidth 32 = eventStatusCombo eventCode 0 := by
    simp [eventStatusCombo]
  rw [alone, keyOf_eventStatusCombo]
  simp

section Notifications

variable (answers : Answers) {device : Device Key}

private theorem run_sparseKeymapReport (idle : device.Idle)
    (setup : device.declared = declares nb05DriverKeymap) (code : U32) :
    (request (.sparseKeymapReport code)).run (keyEnvironment answers)
        device =
      ((), device.deliver
        ((keyOf nb05DriverKeymap code).elim []
          fun key => chordFrames [key])) :=
  congrArg (Prod.mk ()) (Device.handleAll_reportKnown idle setup code)

private theorem run_reportGaugeKeyCombo (idle : device.Idle)
    (setup : device.declared = declares nb05DriverKeymap) :
    (request .reportGaugeKeyCombo).run (keyEnvironment answers) device =
      ((), device.deliver (chordFrames controlCenterCombo)) := by
  have delivered :
      device.handleAll (chord controlCenterCombo) =
        device.deliver (chordFrames controlCenterCombo) := by
    refine Device.handleAll_chord idle (List.cons_ne_nil _ _) (by decide) ?_
    rw [setup]
    decide
  exact congrArg (Prod.mk ()) delivered

/-- The switch of the notification only reports the combination. -/
theorem run_actOnEvent (idle : device.Idle)
    (setup : device.declared = declares nb05DriverKeymap)
    (eventCode : U8) (status : U16) :
    (actOnEvent eventCode status).run (keyEnvironment answers) device =
      ((), device.deliver
        (if (eventCode = nb05WmiEventModePowerSave ∨
              eventCode = nb05WmiEventModeBalance ∨
              eventCode = nb05WmiEventModeHighPerformance) ∧
            answers .getProfileChangedByDriverFlag = false then
          chordFrames controlCenterCombo
        else [])) := by
  have unchanged : (((), device) : Unit × Device Key) =
      ((), device.deliver []) := by
    rw [Device.deliver_nil]
  by_cases isMode : eventCode = nb05WmiEventModePowerSave ∨
      eventCode = nb05WmiEventModeBalance ∨
      eventCode = nb05WmiEventModeHighPerformance
  · have asked :
        profileChangedByDriver.run (keyEnvironment answers) device =
          (answers .getProfileChangedByDriverFlag, device) :=
      rfl
    rw [actOnEvent_of_mode isMode, Program.run_bind, asked, Program.run_ite]
    by_cases byFirmware : answers .getProfileChangedByDriverFlag = false
    · rw [if_pos byFirmware, if_pos ⟨isMode, byFirmware⟩, Program.run_bind,
        run_reportGaugeKeyCombo answers idle setup]
      rfl
    · rw [if_neg byFirmware, if_neg fun both => byFirmware both.2]
      exact unchanged
  · rw [if_neg fun both => isMode both.1, ← unchanged, actOnEvent,
      if_neg isMode]
    -- the other cases only notify the LED class
    split_ifs <;> rfl

/-- The combination of an event and the key of its code with the status. -/
theorem flatMap_nb05Chords (byDriver : Bool) (eventCode : U8)
    (status : U16) :
    (nb05Chords byDriver eventCode status).flatMap chordFrames =
      (if (eventCode = nb05WmiEventModePowerSave ∨
            eventCode = nb05WmiEventModeBalance ∨
            eventCode = nb05WmiEventModeHighPerformance) ∧
          byDriver = false then
        chordFrames controlCenterCombo
      else []) ++
        (keyOf nb05DriverKeymap (eventStatusCombo eventCode status)).elim []
          fun key => chordFrames [key] := by
  rw [keyOf_eventStatusCombo, nb05Chords]
  by_cases isMode : eventCode = nb05WmiEventModePowerSave ∨
      eventCode = nb05WmiEventModeBalance ∨
      eventCode = nb05WmiEventModeHighPerformance
  · have notTouchpad : eventCode ≠ nb05WmiEventTouchpadToggle := by
      rcases isMode with rfl | rfl | rfl <;> decide
    have notDeclaring : eventCode ≠ 0xff := by
      rcases isMode with rfl | rfl | rfl <;> decide
    simp only [notTouchpad, notDeclaring, false_and, if_false,
      Option.elim_none, List.append_nil, if_pos isMode]
    cases byDriver with
    | true => rw [if_pos rfl, if_neg fun both => nomatch both.2]; rfl
    | false => rw [if_neg Bool.false_ne_true, if_pos ⟨isMode, rfl⟩]; rfl
  · have noCombo : ¬ ((eventCode = nb05WmiEventModePowerSave ∨
        eventCode = nb05WmiEventModeBalance ∨
        eventCode = nb05WmiEventModeHighPerformance) ∧
          byDriver = false) :=
      fun both => isMode both.1
    rw [if_neg isMode, if_neg noCombo, List.nil_append]
    split_ifs <;> rfl

/-- One notification delivers its chords. -/
theorem run_tuxedoNb05KeyboardNotify (idle : device.Idle)
    (setup : device.declared = declares nb05DriverKeymap)
    (object : Option AcpiObject) :
    (tuxedoNb05KeyboardNotify object).run (keyEnvironment answers) device =
      ((), device.deliver
        ((notificationChords (answers .getProfileChangedByDriverFlag)
          object).flatMap chordFrames)) := by
  by_cases expected :
      ∃ functionNumber eventCode low high rest,
        object =
          some (.buffer (functionNumber :: eventCode :: low :: high :: rest))
  · obtain ⟨functionNumber, eventCode, low, high, rest, isBuffer⟩ := expected
    have acted := run_actOnEvent answers idle setup eventCode (high ++ low)
    have reported (frames : List (Frame Key)) (code : U32) :=
      run_sparseKeymapReport answers (idle.deliver frames) setup code
    rw [isBuffer]
    simp only [tuxedoNb05KeyboardNotify, notificationChords]
    rw [flatMap_nb05Chords, Program.run_bind, acted, Program.run_bind,
      reported, keyOf_eventCode, Option.elim_none, Device.deliver_nil,
      reported, Device.deliver_deliver]
  · have ignored : tuxedoNb05KeyboardNotify object = pure () := by
      unfold tuxedoNb05KeyboardNotify
      split
      · exact absurd ⟨_, _, _, _, _, rfl⟩ expected
      · rfl
    have noChords (byDriver : Bool) :
        notificationChords byDriver object = [] := by
      unfold notificationChords
      split
      · exact absurd ⟨_, _, _, _, _, rfl⟩ expected
      · rfl
    rw [ignored, noChords]
    exact congrArg (Prod.mk ()) device.deliver_nil.symm

end Notifications

/-- The device after notifications, each with its own answers. -/
def deviceAfter :
    List (Option AcpiObject × Answers) → Device Key → Device Key
  | [], device => device
  | (object, answers) :: rest, device =>
      deviceAfter rest
        ((tuxedoNb05KeyboardNotify object).run (keyEnvironment answers)
          device).2

/-- User space gets exactly the chords of the notifications, at most one for
each, and no key stays pressed. -/
theorem frames_notifications
    (notifications : List (Option AcpiObject × Answers))
    {device : Device Key} (idle : device.Idle)
    (setup : device.declared = declares nb05DriverKeymap) :
    let chords (notification : Option AcpiObject × Answers) :=
      notificationChords
        (notification.2 .getProfileChangedByDriverFlag) notification.1
    let reached := deviceAfter notifications device
    reached.Idle ∧
      reached.frames =
        device.frames ++
          (notifications.flatMap chords).flatMap chordFrames ∧
      ∀ notification ∈ notifications, (chords notification).length ≤ 1 := by
  intro chords
  have atMostOne (notification : Option AcpiObject × Answers) :
      (chords notification).length ≤ 1 := by
    simp only [chords, notificationChords]
    split
    · rw [nb05Chords]
      split_ifs <;> decide
    · exact Nat.zero_le 1
  induction notifications generalizing device with
  | nil =>
      exact
        ⟨idle, (List.append_nil device.frames).symm, fun _ _ => atMostOne _⟩
  | cons notification rest inductionHypothesis =>
      obtain ⟨object, answers⟩ := notification
      have here := run_tuxedoNb05KeyboardNotify answers idle setup object
      obtain ⟨stillIdle, frames, -⟩ :=
        inductionHypothesis (idle.deliver _) setup
      simp only [deviceAfter, here]
      refine ⟨stillIdle, ?_, fun _ _ => atMostOne _⟩
      rw [frames, List.flatMap_cons, List.flatMap_append]
      simp only [Device.deliver, List.append_assoc, chords]

/-- Drivers without a device, and who changed the mode. -/
def Answers.ofFlag (byDriver : Bool) : Answers
  | .getProfileChangedByDriverFlag => byDriver
  | .getWmiDev => none
  | .getDrvdata _ => none
  | .evaluateMethod _ _ _ => .failure
  | .getLastChosenProfile _ => 0
  | .tuxedoIsCompatible => false
  | .wmiHasGuid => false
  | .devmKzalloc _ => false
  | .platformDeviceRegister => false
  | .sysfsCreateGroup => 0
  | .expireTimer => false
  | .beginWork => false
  | .setWmiDev _ => ()
  | .setDrvdata _ => ()
  | .setLastChosenProfile _ _ => ()
  | .setProfileChangedByDriverFlag _ => ()
  | .modTimer => ()
  | .timerDelete => ()
  | .scheduleWork => ()
  | .platformDeviceUnregister => ()
  | .sysfsRemoveGroup => ()
  | .reportGaugeKeyCombo => ()
  | .ledsNotifyBrightness _ => ()
  | .sparseKeymapReport _ => ()
  | .beginStore => ()
  | .changeMode _ => ()
  | .endWork => ()

/-- Changes of the mode by the driver and by the firmware, and the touchpad
switched on. -/
theorem frames_notifications_modes :
    (deviceAfter
        [ (some (.buffer [1, 0x12, 0, 0]), .ofFlag true),
          (some (.buffer [1, 0x13, 0, 0]), .ofFlag false),
          (some (.buffer [1, 0x02, 0x11, 0]), .ofFlag false) ]
        ⟨declares nb05DriverKeymap, fun _ => false, [], []⟩).frames =
      [ [(.leftMeta, true), (.leftAlt, true), (.f6, true)],
        [(.f6, false), (.leftAlt, false), (.leftMeta, false)],
        [(.f22, true)], [(.f22, false)] ] :=
  (frames_notifications _ ⟨fun _ => rfl, rfl⟩ rfl).2.1.trans (by decide)

end TuxedoDrivers.WmiKeyboards
