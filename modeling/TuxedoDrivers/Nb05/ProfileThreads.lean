import TuxedoDrivers.Interaction.ControlPoints
import TuxedoDrivers.Nb05.PowerProfiles

/-!
# Activities around the power profile

Stores, mode changes of the firmware, expiries of the timer and executions of
the rewrite work, as programs that run concurrently, and the points they go
through.
-/

namespace TuxedoDrivers.Nb05.PowerProfiles

open Interaction
open TuxedoDrivers.Wmi

/-! ## Activities -/

/-- The bytes of a notification about a mode. -/
structure ModeEvent where
  functionNumber : U8
  eventCode : U8
  low : U8
  high : U8
  rest : List U8
  isMode : eventCode = nb05WmiEventModePowerSave ∨
    eventCode = nb05WmiEventModeBalance ∨
    eventCode = nb05WmiEventModeHighPerformance

def ModeEvent.object (event : ModeEvent) : AcpiObject :=
  .buffer
    (event.functionNumber :: event.eventCode :: event.low :: event.high ::
      event.rest)

inductive Activity where
  | store (buffer : String) (size : Nat)
  | modeChange (profile : U64) (event : ModeEvent)
  | timerExpiry
  | workExecution

/-- The device that is bound. -/
def wmiDevice : Device := 0

def Activity.program : Activity → Profiles Unit
  | .store buffer size => do
      request .beginStore
      let _ ← platformProfileStore wmiDevice buffer size
      return ()
  | .modeChange profile event => do
      request (.changeMode profile)
      tuxedoNb05KeyboardNotify (some event.object)
  | .timerExpiry => do
      let expired ← request .expireTimer
      if expired = true then
        profileChangedTimeout
      else
        return ()
  | .workExecution => do
      let taken ← request .beginWork
      if taken = true then
        nb05RewriteProfileWorkHandler
        request .endWork
      else
        return ()

/-! ## Shared state -/

structure ProfileState where
  firmware : U64
  lastChosen : U64
  changedByDriver : Bool
  armed : Bool
  queued : Bool
  running : Bool
  deriving DecidableEq, Repr

/-- Firmware that succeeds: the first method sets the profile and the second
reads it. -/
def ProfileState.evaluate (state : ProfileState) (methodId : U32)
    (input : Option U64) : Reply × ProfileState :=
  if methodId = 1 then
    (.success (some (.integer 0)),
      { state with firmware := input.getD 0 })
  else (.success (some (.integer state.firmware)), state)

/-- The device stays bound. -/
def environment : Environment profileSignature ProfileState
  | .getWmiDev, state => (some wmiDevice, state)
  | .getDrvdata device, state => (device, state)
  | .evaluateMethod _ methodId input, state =>
      state.evaluate methodId input
  | .getLastChosenProfile _, state => (state.lastChosen, state)
  | .setLastChosenProfile _ lastChosen, state =>
      ((), { state with lastChosen })
  | .getProfileChangedByDriverFlag, state => (state.changedByDriver, state)
  | .setProfileChangedByDriverFlag changedByDriver, state =>
      ((), { state with changedByDriver })
  | .modTimer, state => ((), { state with armed := true })
  | .timerDelete, state => ((), { state with armed := false })
  | .scheduleWork, state => ((), { state with queued := true })
  | .changeMode firmware, state => ((), { state with firmware })
  | .expireTimer, state => (state.armed, { state with armed := false })
  | .beginWork, state =>
      if state.queued = true ∧ state.running = false then
        (true, { state with queued := false, running := true })
      else (false, state)
  | .endWork, state => ((), { state with running := false })
  | .setWmiDev _, state => ((), state)
  | .setDrvdata _, state => ((), state)
  | .tuxedoIsCompatible, state => (true, state)
  | .wmiHasGuid, state => (true, state)
  | .devmKzalloc _, state => (true, state)
  | .platformDeviceRegister, state => (true, state)
  | .platformDeviceUnregister, state => ((), state)
  | .sysfsCreateGroup, state => (0, state)
  | .sysfsRemoveGroup, state => ((), state)
  | .reportGaugeKeyCombo, state => ((), state)
  | .ledsNotifyBrightness _, state => ((), state)
  | .sparseKeymapReport _, state => ((), state)
  | .beginStore, state => ((), state)

/-- The module just bound, with the profile that the firmware has. -/
def ProfileState.initial (profile : U64) : ProfileState where
  firmware := profile
  lastChosen := profile
  changedByDriver := false
  armed := false
  queued := false
  running := false

abbrev Driver (ι : Type) : Type :=
  Threads profileSignature ι Unit ProfileState

def start {ι : Type} (activities : ι → Activity) (profile : U64) :
    Driver ι where
  programs thread := (activities thread).program
  state := ProfileState.initial profile

/-! ## Control points -/

/-- Who calls `write_profile`. -/
inductive Writer where
  | store (size : Nat)
  | work
  deriving DecidableEq, Repr

inductive ProfilePoint where
  | finished
  /-- Before a store begins. -/
  | storing (buffer : String) (size : Nat)
  /-- Before the driver data is looked up. -/
  | parsing (buffer : String) (size : Nat)
  /-- Before the flag is set. -/
  | flagging (writer : Writer) (profile : U64)
  /-- Before `mod_timer`. -/
  | arming (writer : Writer) (profile : U64)
  | finding (writer : Writer) (profile : U64)
  /-- Before the firmware call that sets the profile. -/
  | writing (writer : Writer) (profile : U64)
  | remembering (profile : U64)
  /-- Before the firmware changes the profile. -/
  | changing (profile : U64) (event : ModeEvent)
  /-- Before the notification looks at the flag. -/
  | notifying (event : ModeEvent)
  | reporting (event : ModeEvent)
  | scheduling (event : ModeEvent)
  | reportingCode (event : ModeEvent)
  | reportingCombo (event : ModeEvent)
  /-- Before the timer expires. -/
  | expiring
  /-- Before the callback clears the flag. -/
  | clearing
  | rescheduling
  /-- Before an execution begins. -/
  | starting
  | began
  | fetching
  | findingReader
  /-- Before the firmware call that reads the profile. -/
  | reading
  | comparing (current : U64)
  /-- Before the last profile is read to be written. -/
  | choosing
  | ending

namespace ProfilePoint

/-- What `write_profile` is called in. -/
def finishRewrite (rewrite : Profiles Int) : Profiles Unit := do
  let _ ← (do
    let _ ← rewrite
    return ())
  request .endWork

def finishWrite (profile : U64) (write : Profiles Int) :
    Writer → Profiles Unit
  | .store size => do
      let _ ← (do
        let err ← write
        if err ≠ 0 then
          return err
        else
          request (.setLastChosenProfile (some wmiDevice) profile)
          return (size : Int))
      return ()
  | .work => finishRewrite write

def rewriteFrom (driverData : Option Device) (current : Except Int U64) :
    Profiles Int :=
  match current with
  | .error err => return err
  | .ok currentProfile => do
      let lastChosen ← request (.getLastChosenProfile driverData)
      if currentProfile ≠ lastChosen then
        let profile ← request (.getLastChosenProfile driverData)
        writeProfile profile
      else
        return 0

def reportCodes (event : ModeEvent) : Profiles Unit := do
  request (.sparseKeymapReport (event.eventCode.setWidth 32))
  request
    (.sparseKeymapReport
      (eventStatusCombo event.eventCode (event.high ++ event.low)))

def program : ProfilePoint → Profiles Unit
  | finished => return ()
  | storing buffer size => (Activity.store buffer size).program
  | parsing buffer size => do
      let _ ← platformProfileStore wmiDevice buffer size
      return ()
  | flagging writer profile =>
      finishWrite profile (writeProfile profile) writer
  | arming writer profile =>
      finishWrite profile
        (do
          request .modTimer
          let result ← nb05WmiAaMethod 1 (some profile)
          return writeResult result)
        writer
  | finding writer profile =>
      finishWrite profile
        (do
          let result ← nb05WmiAaMethod 1 (some profile)
          return writeResult result)
        writer
  | writing writer profile =>
      finishWrite profile
        (do
          let reply ← request (.evaluateMethod wmiDevice 1 (some profile))
          return writeResult reply.integer)
        writer
  | remembering profile =>
      request (.setLastChosenProfile (some wmiDevice) profile)
  | changing profile event => (Activity.modeChange profile event).program
  | notifying event => do
      actOnEvent event.eventCode (event.high ++ event.low)
      reportCodes event
  | reporting event => do
      request .reportGaugeKeyCombo
      request .scheduleWork
      reportCodes event
  | scheduling event => do
      request .scheduleWork
      reportCodes event
  | reportingCode event => reportCodes event
  | reportingCombo event =>
      request
        (.sparseKeymapReport
          (eventStatusCombo event.eventCode (event.high ++ event.low)))
  | expiring => Activity.timerExpiry.program
  | clearing => profileChangedTimeout
  | rescheduling => request .scheduleWork
  | starting => Activity.workExecution.program
  | began => finishRewrite rewriteLastProfileInternal
  | fetching =>
      finishRewrite do
        let driverData ← request (.getDrvdata (some wmiDevice))
        let current ← readProfile
        rewriteFrom driverData current
  | findingReader =>
      finishRewrite do
        let current ← readProfile
        rewriteFrom (some wmiDevice) current
  | reading =>
      finishRewrite do
        let reply ← request (.evaluateMethod wmiDevice 2 none)
        rewriteFrom (some wmiDevice) reply.integer
  | comparing current =>
      finishRewrite (rewriteFrom (some wmiDevice) (.ok current))
  | choosing =>
      finishRewrite do
        let profile ← request (.getLastChosenProfile (some wmiDevice))
        writeProfile profile
  | ending => request .endWork

def parsed (size : Nat) (buffer : String) : ProfilePoint :=
  match platformProfileValue buffer with
  | some profile => flagging (.store size) profile
  | none => finished

def written (profile : U64) : Writer → ProfilePoint
  | .store _ => remembering profile
  | .work => ending

def advance : ProfilePoint → ProfileState →
    Option (ProfilePoint × ProfileState)
  | finished, _ => none
  | storing buffer size, state => some (parsing buffer size, state)
  | parsing buffer size, state => some (parsed size buffer, state)
  | flagging writer profile, state =>
      some (arming writer profile,
        { state with changedByDriver := true })
  | arming writer profile, state =>
      some (finding writer profile, { state with armed := true })
  | finding writer profile, state =>
      some (writing writer profile, state)
  | writing writer profile, state =>
      some (written profile writer, { state with firmware := profile })
  | remembering profile, state =>
      some (finished, { state with lastChosen := profile })
  | changing profile event, state =>
      some (notifying event, { state with firmware := profile })
  | notifying event, state =>
      some
        (if state.changedByDriver = false then reporting event
          else reportingCode event,
          state)
  | reporting event, state => some (scheduling event, state)
  | scheduling event, state =>
      some (reportingCode event, { state with queued := true })
  | reportingCode event, state => some (reportingCombo event, state)
  | reportingCombo _, state => some (finished, state)
  | expiring, state =>
      some
        (if state.armed = true then clearing else finished,
          { state with armed := false })
  | clearing, state =>
      some (rescheduling, { state with changedByDriver := false })
  | rescheduling, state => some (finished, { state with queued := true })
  | starting, state =>
      some
        (if state.queued = true ∧ state.running = false then began
          else finished,
          if state.queued = true ∧ state.running = false then
            { state with queued := false, running := true }
          else state)
  | began, state => some (fetching, state)
  | fetching, state => some (findingReader, state)
  | findingReader, state => some (reading, state)
  | reading, state => some (comparing state.firmware, state)
  | comparing current, state =>
      some
        (if current ≠ state.lastChosen then choosing else ending, state)
  | choosing, state => some (flagging .work state.lastChosen, state)
  | ending, state => some (finished, { state with running := false })

theorem follows : Threads.Follows environment program advance := by
  intro point state
  cases point with
  | finished =>
      rfl
  | parsing buffer size =>
      refine ⟨_, rfl, ?_⟩
      cases value : platformProfileValue buffer with
      | none =>
          simp only [parsed, value]
          rfl
      | some profile =>
          simp only [parsed, value]
          rfl
  | writing writer profile =>
      cases writer with
      | store size => exact ⟨_, rfl, rfl⟩
      | work => exact ⟨_, rfl, rfl⟩
  | flagging writer profile =>
      cases writer with
      | store size => exact ⟨_, rfl, rfl⟩
      | work => exact ⟨_, rfl, rfl⟩
  | arming writer profile =>
      cases writer with
      | store size => exact ⟨_, rfl, rfl⟩
      | work => exact ⟨_, rfl, rfl⟩
  | finding writer profile =>
      cases writer with
      | store size => exact ⟨_, rfl, rfl⟩
      | work => exact ⟨_, rfl, rfl⟩
  | notifying event =>
      simp only [program, actOnEvent_of_mode event.isMode]
      refine ⟨_, rfl, ?_⟩
      change
        ((if state.changedByDriver = false then
            (do
              request .reportGaugeKeyCombo
              rewriteLastProfile)
          else pure ()) >>= fun _ => reportCodes event) = _
      cases state.changedByDriver with
      | true => rfl
      | false => rfl
  | expiring =>
      refine ⟨_, rfl, ?_⟩
      change
        (if state.armed = true then profileChangedTimeout else pure ()) = _
      cases state.armed with
      | true => rfl
      | false => rfl
  | starting =>
      by_cases free : state.queued = true ∧ state.running = false
      · refine ⟨began, ?_, ?_⟩
        · simp only [advance, environment, if_pos free]
        · simp only [environment, if_pos free]
          rfl
      · refine ⟨finished, ?_, ?_⟩
        · simp only [advance, environment, if_neg free]
        · simp only [environment, if_neg free]
          rfl
  | comparing current =>
      refine ⟨_, rfl, ?_⟩
      change
        finishRewrite
          (if current ≠ state.lastChosen then
            (do
              let profile ←
                request (.getLastChosenProfile (some wmiDevice))
              writeProfile profile)
          else pure 0) = _
      split
      · rfl
      · rfl
  | _ => exact ⟨_, rfl, rfl⟩

end ProfilePoint

end TuxedoDrivers.Nb05.PowerProfiles
