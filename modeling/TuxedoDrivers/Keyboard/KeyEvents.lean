import TuxedoDrivers.Input.KeyReports
import TuxedoDrivers.Keyboard.Interfaces

/-!
# The keys that the event callbacks report

The keymaps of `clevo_keyboard.h` and `uniwill_keyboard.h` and what user
space gets of the event callbacks and of the work of the touchpad key.  The
combination that opens the control center is reported change by change; the
keymaps have entries for a code of no event that only declare its keys.
-/

namespace TuxedoDrivers.Keyboard

open Interaction
open Input

inductive Key where
  | f6
  | f20
  | f21
  | f22
  | f23
  | leftAlt
  | leftMeta
  | rfkill
  | kbdillumDown
  | kbdillumUp
  | kbdillumToggle
  | lightsToggle
  | fnEsc
  deriving DecidableEq, Repr

def ComboKey.key : ComboKey → Key
  | .leftMeta => .leftMeta
  | .leftAlt => .leftAlt
  | .f6 => .f6

/-- The combination that opens the control center. -/
def controlCenterCombo : List Key := [.leftMeta, .leftAlt, .f6]

/-- The entries that are there only to declare the keys of the combination,
for a code that is no event. -/
def comboEntries : List (KeyEntry U32 Key) :=
  [.key 0xffff .f6, .key 0xffff .leftAlt, .key 0xffff .leftMeta]

/-! ## Keymaps -/

def clevoKeymap : List (KeyEntry U32 Key) :=
  [ .key 0x81 .kbdillumDown, .key 0x82 .kbdillumUp,
    .key 0x9f .kbdillumToggle,
    .key clevoEventKbLedsCycleMode .lightsToggle,
    .key 0x20 .kbdillumDown, .key 0x21 .kbdillumUp,
    .key 0x3f .kbdillumToggle,
    .key 0x5d .f21, .key 0xfc .f21, .key 0xfd .f21,
    .key 0x85 .rfkill, .ignore 0x86, .ignore 0xfa, .ignore 0xfb ] ++
    comboEntries

def uniwillOsdTouchpadWorkaround : U32 := 0xfff

def uniwillWmiKeymap : List (KeyEntry U32 Key) :=
  [ .key 0x0a4 .rfkill, .key uniwillOsdTouchpadWorkaround .f21,
    .key 0x0b1 .kbdillumDown, .key 0x0b2 .kbdillumUp,
    .key 0x0b9 .kbdillumToggle,
    .key 0x03b .kbdillumToggle, .key 0x03c .kbdillumToggle,
    .key 0x03d .kbdillumToggle, .key 0x03e .kbdillumToggle,
    .key 0x03f .kbdillumToggle,
    .key 0x0b8 .fnEsc ] ++
    comboEntries

def KeyboardDriver.entries : KeyboardDriver → List (KeyEntry U32 Key)
  | .clevo => clevoKeymap
  | .uniwill => uniwillWmiKeymap

theorem declares_controlCenterCombo (driver : KeyboardDriver) :
    ∀ key ∈ controlCenterCombo, declares driver.entries key = true := by
  cases driver <;> decide

/-! ## What reports keys -/

/-- `key_event_work`. -/
def keyEventWork : Core Unit := do
  let inputDevice ← kernel (.driverInputDevice .uniwill)
  match inputDevice with
  | none => return
  | some device =>
      let _ ← kernel
        (.sparseKeymapReportKnownEvent device uniwillOsdTouchpadWorkaround)
      return

/-- An event of the firmware, or an execution of the work that the touchpad
key schedules. -/
inductive KeySource where
  | clevoEvent (event : U32)
  | uniwillEvent (code : U32)
  | uniwillKeyEventWork
  deriving DecidableEq, Repr

namespace KeySource

def driver : KeySource → KeyboardDriver
  | .clevoEvent _ => .clevo
  | .uniwillEvent _ => .uniwill
  | .uniwillKeyEventWork => .uniwill

def program : KeySource → Core Unit
  | .clevoEvent event => clevoKeyboardEventCallb event
  | .uniwillEvent code => uniwillEventCallb code
  | .uniwillKeyEventWork => keyEventWork

end KeySource

/-- What the kernel and the rest of the driver answer. -/
abbrev Answers : Type :=
  (request : KernelRequest) → request.Answer

def inputDevice : InputDevice := 0

/-- The input core on the device of a driver. -/
def inputEnvironment (driver : KeyboardDriver) (answers : Answers) :
    Environment kernelSignature (Device Key)
  | .driverInputDevice _, device => (some inputDevice, device)
  | .inputReportKey _ key pressed, device =>
      ((), device.handle (.key key.key pressed))
  | .inputSync _, device => ((), device.handle .sync)
  | .sparseKeymapReportKnownEvent _ code, device =>
      ((entryFromScancode driver.entries code).isSome,
        device.handleAll (reportKnown driver.entries code))
  | request, device => (answers request, device)

/-! ## What user space gets -/

/-- The key of an event, as a chord of its own. -/
def keyChords (driver : KeyboardDriver) (code : U32) : List (List Key) :=
  ((keyOf driver.entries code).map ([·])).toList

/-- The chords of a source.  The gauge key of Clevo and the mode key of
Uniwill are the combination, and so is the key that cycles through the modes
where the backlight has one color.  Uniwill reports no key for a change of
the brightness that it has notified otherwise. -/
def KeySource.chords (answers : Answers) : KeySource → List (List Key)
  | .clevoEvent event =>
      (if event = clevoEventGaugeKey ∨
          event = clevoEventKbLedsCycleMode ∧
            answers .clevoLedsGetBacklightType = .fixedColor then
        [controlCenterCombo]
      else []) ++ keyChords .clevo event
  | .uniwillEvent code =>
      if code = uniwillOsdModeChangeKeyEvent then [controlCenterCombo]
      else if code = uniwillOsdDcAdapterChange then []
      else if uniwillBrightnessEvents.contains code = true ∧
          answers .uniwillLedsNotifyBrightnessChange = true then []
      else keyChords .uniwill code
  | .uniwillKeyEventWork => [[.f21]]

section Reports

variable (driver : KeyboardDriver) (answers : Answers)
  {device : Device Key} (statics : KeyboardStatics)

/-- The combination, as the callbacks report it. -/
theorem reportCombo_chord (idle : device.Idle)
    (setup : device.declared = declares driver.entries)
    (owner : KeyboardDriver) :
    (reportCombo owner).run
        (keyboardEnvironment (inputEnvironment driver answers))
        (statics, device) =
      ((), statics, device.deliver (chordFrames controlCenterCombo)) := by
  have delivered :
      device.handleAll (chord controlCenterCombo) =
        device.deliver (chordFrames controlCenterCombo) := by
    refine Device.handleAll_chord idle (List.cons_ne_nil _ _) (by decide) ?_
    rw [setup]
    exact declares_controlCenterCombo driver
  rw [← delivered]
  rfl

/-- A code, as it is reported to the device of a driver. -/
theorem reportKnownEvent_chords (idle : device.Idle)
    (setup : device.declared = declares driver.entries)
    (owner : KeyboardDriver) (code : U32) :
    (reportKnownEvent owner code).run
        (keyboardEnvironment (inputEnvironment driver answers))
        (statics, device) =
      ((), statics,
        device.deliver ((keyChords driver code).flatMap chordFrames)) := by
  have delivered := Device.handleAll_reportKnown idle setup code
  have chords :
      ((keyOf driver.entries code).elim [] fun key => chordFrames [key]) =
        (keyChords driver code).flatMap chordFrames := by
    rw [keyChords]
    cases keyOf driver.entries code with
    | none => rfl
    | some key => rfl
  rw [← chords, ← delivered]
  rfl

/-- The `switch` of the Clevo callback. -/
theorem clevoHandleEvent_chords (idle : device.Idle)
    (setup : device.declared = declares driver.entries) (event : U32) :
    (clevoHandleEvent event).run
        (keyboardEnvironment (inputEnvironment driver answers))
        (statics, device) =
      ((), statics,
        device.deliver
          ((if event = clevoEventGaugeKey ∨
              event = clevoEventKbLedsCycleMode ∧
                answers .clevoLedsGetBacklightType = .fixedColor then
            [controlCenterCombo]
          else []).flatMap chordFrames)) := by
  have combo := reportCombo_chord driver answers statics idle setup .clevo
  have nothing : device = device.deliver [] := device.deliver_nil.symm
  rw [clevoHandleEvent, Program.run_ite]
  by_cases gauge : event = clevoEventGaugeKey
  · rw [if_pos gauge, if_pos (Or.inl gauge)]
    exact combo
  · rw [if_neg gauge, Program.run_ite]
    by_cases cycle : event = clevoEventKbLedsCycleMode
    · rw [if_pos cycle, Program.run_bind]
      by_cases fixed :
          answers .clevoLedsGetBacklightType = .fixedColor
      · rw [if_pos (Or.inr ⟨cycle, fixed⟩), Program.run_ite]
        exact (if_pos fixed).trans combo
      · have others : ¬ (event = clevoEventGaugeKey ∨
            event = clevoEventKbLedsCycleMode ∧
              answers .clevoLedsGetBacklightType = .fixedColor) := by
          rintro (isGauge | ⟨-, isFixed⟩)
          · exact gauge isGauge
          · exact fixed isFixed
        rw [if_neg others, Program.run_ite]
        refine (if_neg fixed).trans ?_
        exact congrArg (fun reached => ((), statics, reached)) nothing
    · have others : ¬ (event = clevoEventGaugeKey ∨
          event = clevoEventKbLedsCycleMode ∧
            answers .clevoLedsGetBacklightType = .fixedColor) := by
        rintro (isGauge | ⟨isCycle, -⟩)
        · exact gauge isGauge
        · exact cycle isCycle
      rw [if_neg others, if_neg cycle, Program.run_ite, Program.run_ite]
      have unchanged :
          (((), statics, device) : Unit × KeyboardStatics × Device Key) =
            ((), statics, device.deliver []) :=
        congrArg (fun reached => ((), statics, reached)) nothing
      split
      · exact unchanged
      · split
        · exact unchanged
        · exact unchanged

/-- One callback or one execution of the work delivers its chords. -/
theorem run_keySource (source : KeySource) (idle : device.Idle)
    (setup : device.declared = declares source.driver.entries)
    (current : statics.currentDriver = some source.driver) :
    source.program.run
        (keyboardEnvironment (inputEnvironment source.driver answers))
        (statics, device) =
      ((), statics,
        device.deliver ((source.chords answers).flatMap chordFrames)) := by
  cases source with
  | clevoEvent event =>
      have handled :=
        clevoHandleEvent_chords .clevo answers statics idle setup event
      have reported (frames : List (Frame Key)) :=
        reportKnownEvent_chords .clevo answers statics (idle.deliver frames)
          setup .clevo event
      change (clevoHandleEvent event >>= fun _ =>
        reportToCurrentDriver event).run _ _ = _
      simp only [KeySource.driver] at current ⊢
      rw [Program.run_bind, handled, reportToCurrentDriver, Program.run_bind,
        run_getStatics]
      simp only [current]
      rw [reported, Device.deliver_deliver, ← List.flatMap_append]
      rfl
  | uniwillEvent code =>
      have reported :=
        reportKnownEvent_chords .uniwill answers statics idle setup .uniwill
          code
      have unchanged :
          (((), statics, device) : Unit × KeyboardStatics × Device Key) =
            ((), statics, device.deliver []) := by
        rw [Device.deliver_nil]
      simp only [KeySource.program, KeySource.driver, KeySource.chords]
      rw [uniwillEventCallb, Program.run_ite]
      by_cases modeKey : code = uniwillOsdModeChangeKeyEvent
      · rw [if_pos modeKey, if_pos modeKey]
        exact reportCombo_chord .uniwill answers statics idle setup .uniwill
      · rw [if_neg modeKey, if_neg modeKey, Program.run_ite]
        by_cases adapter : code = uniwillOsdDcAdapterChange
        · rw [if_pos adapter, if_pos adapter]
          exact unchanged
        · rw [if_neg adapter, if_neg adapter, Program.run_ite]
          by_cases brightness : code ∈ uniwillBrightnessEvents
          · have asked :
                (kernel .uniwillLedsNotifyBrightnessChange).run
                    (keyboardEnvironment (inputEnvironment .uniwill answers))
                    (statics, device) =
                  (answers .uniwillLedsNotifyBrightnessChange, statics,
                    device) :=
              rfl
            rw [if_pos brightness, Program.run_bind, asked, Program.run_ite]
            by_cases notified :
                answers .uniwillLedsNotifyBrightnessChange = true
            · rw [if_pos notified,
                if_pos ⟨List.contains_iff_mem.mpr brightness, notified⟩]
              exact unchanged
            · rw [if_neg notified, if_neg fun both => notified both.2]
              exact reported
          · rw [if_neg brightness,
              if_neg fun both => brightness (List.contains_iff_mem.mp both.1)]
            exact reported
  | uniwillKeyEventWork =>
      exact
        reportKnownEvent_chords .uniwill answers statics idle setup .uniwill
          uniwillOsdTouchpadWorkaround

end Reports

/-- The device of a driver after callbacks and executions of the work, one
after the other, each with its own answers. -/
def deviceAfter (driver : KeyboardDriver) (statics : KeyboardStatics) :
    List (KeySource × Answers) → Device Key → Device Key
  | [], device => device
  | (source, answers) :: rest, device =>
      deviceAfter driver statics rest
        (source.program.run
          (keyboardEnvironment (inputEnvironment driver answers))
          (statics, device)).2.2

/-- User space gets exactly the chords of the events, in their order, no key
of a chord is dropped as undeclared, and none stays pressed. -/
theorem frames_deviceAfter (driver : KeyboardDriver)
    (statics : KeyboardStatics)
    (current : statics.currentDriver = some driver)
    (sources : List (KeySource × Answers))
    (own : ∀ source ∈ sources, source.1.driver = driver)
    {device : Device Key} (idle : device.Idle)
    (setup : device.declared = declares driver.entries) :
    let reached := deviceAfter driver statics sources device
    reached.Idle ∧
      reached.frames =
        device.frames ++
          (sources.flatMap fun source =>
            source.1.chords source.2).flatMap chordFrames := by
  induction sources generalizing device with
  | nil =>
      exact ⟨idle, (List.append_nil device.frames).symm⟩
  | cons source rest inductionHypothesis =>
      obtain ⟨source, answers⟩ := source
      have ownHere : source.driver = driver :=
        own (source, answers) List.mem_cons_self
      subst ownHere
      have here := run_keySource answers statics source idle setup current
      obtain ⟨stillIdle, frames⟩ :=
        inductionHypothesis
          (fun later member => own later (List.mem_cons_of_mem _ member))
          (idle.deliver ((source.chords answers).flatMap chordFrames)) setup
      simp only [deviceAfter, here]
      refine ⟨stillIdle, ?_⟩
      rw [frames, List.flatMap_cons, List.flatMap_append]
      simp only [Device.deliver, List.append_assoc]

/-- A kernel that answers everything with success, and whether the change of
the brightness is notified. -/
def Answers.ofNotified (notified : Bool) : Answers
  | .uniwillLedsNotifyBrightnessChange => notified
  | .platformCreateBundle _ => .null
  | .deviceCreateFile _ => 0
  | .inputAllocateDevice => none
  | .sparseKeymapSetup _ _ => 0
  | .inputRegisterDevice _ => 0
  | .driverInputDevice _ => none
  | .fnLockAvailable _ => false
  | .strayDriverName => ""
  | .setEventsEnabled _ => 0
  | .sparseKeymapReportKnownEvent _ _ => false
  | .clevoLedsGetBacklightType => .none
  | .platformDeviceUnregister _ => ()
  | .platformDriverUnregister _ => ()
  | .deviceRemoveFile _ => ()
  | .inputFreeDevice _ => ()
  | .inputUnregisterDevice _ => ()
  | .setDriverInputDevice _ _ => ()
  | .installNotifyHandler _ => ()
  | .removeNotifyHandler _ => ()
  | .setEventCallb _ => ()
  | .inputReportKey _ _ _ => ()
  | .inputSync _ => ()
  | .eventAction _ => ()

/-- The touchpad key and the brightness key of a white and of another
keyboard. -/
theorem frames_deviceAfter_uniwill :
    (deviceAfter .uniwill { currentDriver := some .uniwill }
        [ (.uniwillKeyEventWork, .ofNotified true),
          (.uniwillEvent 0x03c, .ofNotified true),
          (.uniwillEvent 0x03c, .ofNotified false) ]
        ⟨declares uniwillWmiKeymap, fun _ => false, [], []⟩).frames =
      [ [(.f21, true)], [(.f21, false)],
        [(.kbdillumToggle, true)], [(.kbdillumToggle, false)] ] := by
  rw [(frames_deviceAfter .uniwill { currentDriver := some .uniwill } rfl
    _ (by decide) ⟨fun _ => rfl, rfl⟩ rfl).2]
  rfl

end TuxedoDrivers.Keyboard
