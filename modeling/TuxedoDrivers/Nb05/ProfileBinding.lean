import TuxedoDrivers.Interaction.Runs
import TuxedoDrivers.Nb05.ProfileThreads

/-!
# Binding of the NB05 device

`nb05_power_profiles` keeps its device in a variable and uses it when the
attribute is read or stored, and when delayed work is executed.  The result
says which histories of probes, removals, notifications and executions use the
device only while it is bound.
-/

namespace TuxedoDrivers.WmiBinding.PowerProfiles

open Interaction
open TuxedoDrivers.Wmi
open TuxedoDrivers.Nb05.PowerProfiles hiding environment start

/-- How the kernel and the firmware answer during one step. -/
structure ProfileAnswers where
  compatible : Bool
  hasGuid : Bool
  allocated : Bool
  registered : Bool
  createGroup : Int
  evaluate : U32 → Reply

/-- The driver data of a device is its last chosen profile. -/
structure ProfileBinding where
  wmiDev : Option Device
  bound : List Device
  driverData : Device → Option U64
  changedByDriver : Bool
  armed : Bool
  queued : Bool

namespace ProfileBinding

/-- The module just loaded. -/
def loaded : ProfileBinding where
  wmiDev := none
  bound := []
  driverData _ := none
  changedByDriver := false
  armed := false
  queued := false

def setDriverData (binding : ProfileBinding) (device : Device)
    (profile : Option U64) : ProfileBinding :=
  { binding with
    driverData := Function.update binding.driverData device profile }

end ProfileBinding

def ProfileAnswers.environment (answers : ProfileAnswers) :
    Environment profileSignature ProfileBinding
  | .getWmiDev, binding => (binding.wmiDev, binding)
  | .setWmiDev wmiDev, binding => ((), { binding with wmiDev })
  | .getDrvdata device, binding =>
      (device.filter fun device => (binding.driverData device).isSome,
        binding)
  | .setDrvdata device, binding =>
      ((), binding.setDriverData device (some 0))
  | .evaluateMethod _ methodId _, binding =>
      (answers.evaluate methodId, binding)
  | .getLastChosenProfile data, binding =>
      ((data.bind binding.driverData).getD 0, binding)
  | .setLastChosenProfile data profile, binding =>
      match data with
      | some device => ((), binding.setDriverData device (some profile))
      | none => ((), binding)
  | .getProfileChangedByDriverFlag, binding =>
      (binding.changedByDriver, binding)
  | .setProfileChangedByDriverFlag changedByDriver, binding =>
      ((), { binding with changedByDriver })
  | .modTimer, binding => ((), { binding with armed := true })
  | .timerDelete, binding => ((), { binding with armed := false })
  | .scheduleWork, binding => ((), { binding with queued := true })
  | .expireTimer, binding =>
      (binding.armed, { binding with armed := false })
  | .beginWork, binding =>
      (binding.queued, { binding with queued := false })
  | .tuxedoIsCompatible, binding => (answers.compatible, binding)
  | .wmiHasGuid, binding => (answers.hasGuid, binding)
  | .devmKzalloc _, binding => (answers.allocated, binding)
  | .platformDeviceRegister, binding => (answers.registered, binding)
  | .sysfsCreateGroup, binding => (answers.createGroup, binding)
  | .platformDeviceUnregister, binding => ((), binding)
  | .sysfsRemoveGroup, binding => ((), binding)
  | .reportGaugeKeyCombo, binding => ((), binding)
  | .ledsNotifyBrightness _, binding => ((), binding)
  | .sparseKeymapReport _, binding => ((), binding)
  | .beginStore, binding => ((), binding)
  | .changeMode _, binding => ((), binding)
  | .endWork, binding => ((), binding)

/-! ## Steps -/

/-- The keyboard driver notifies, and its events make the work queued. -/
inductive ProfileEvent where
  | probe (device : Device)
  | remove (device : Device)
  | store (device : Device) (buffer : String) (size : Nat)
  | read (device : Device)
  | notify (object : Option AcpiObject)
  | timerExpiry
  | workExecution

namespace ProfileEvent

/-- Only a device that is not bound is probed, and the attribute is there to
read and store while its device is bound. -/
def Happens (bound : List Device) : ProfileEvent → Prop
  | probe device => device ∉ bound
  | remove device => device ∈ bound
  | store device _ _ => device ∈ bound
  | read device => device ∈ bound
  | _ => True

instance (bound : List Device) (event : ProfileEvent) :
    Decidable (event.Happens bound) := by
  cases event with
  | _ =>
      unfold Happens
      infer_instance

def program : ProfileEvent → Profiles Int
  | probe device => tuxedoNb05PowerProfilesProbe device
  | remove device => do
      tuxedoNb05PowerProfilesRemove device
      return 0
  | store device buffer size => platformProfileStore device buffer size
  | read _ => do
      let _ ← platformProfileShow
      return 0
  | notify object => do
      tuxedoNb05KeyboardNotify object
      return 0
  | timerExpiry => do
      Activity.timerExpiry.program
      return 0
  | workExecution => do
      Activity.workExecution.program
      return 0

/-- What the driver core does afterwards: it drops the driver data of a device
that is not bound. -/
def settle (result : Int) (binding : ProfileBinding) :
    ProfileEvent → ProfileBinding
  | probe device =>
      if result = 0 then
        { binding with bound := device :: binding.bound }
      else binding.setDriverData device none
  | remove device =>
      { binding.setDriverData device none with
        bound := binding.bound.erase device }
  | _ => binding

end ProfileEvent

structure ProfileStep where
  event : ProfileEvent
  answers : ProfileAnswers

namespace ProfileStep

def run (step : ProfileStep) (binding : ProfileBinding) : ProfileBinding :=
  if step.event.Happens binding.bound then
    let done := step.event.program.run step.answers.environment binding
    step.event.settle done.1 done.2
  else binding

end ProfileStep

/-- The request uses a device, its driver data, or what is at `NULL`. -/
def dereferences : ProfileRequest → Option Device → Prop
  | .getDrvdata device, used => used = device
  | .evaluateMethod device _ _, used => used = some device
  | .getLastChosenProfile data, used => used = data
  | .setLastChosenProfile data _, used => used = data
  | _, _ => False

/-- A device that is bound and has its driver data. -/
def ProfileBinding.Live (binding : ProfileBinding) (used : Option Device) :
    Prop :=
  ∃ device, used = some device ∧ device ∈ binding.bound ∧
    (binding.driverData device).isSome = true

/-- What an event may use: a probe the device that it is about, and anything
else a device that is bound. -/
def ProfileEvent.MayUse (binding : ProfileBinding) (used : Option Device) :
    ProfileEvent → Prop
  | probe device => used = some device
  | _ => binding.Live used

/-- Whatever the run uses is permitted. -/
def Uses (permitted : Option Device → Prop) (answers : ProfileAnswers)
    {α : Type} (program : Profiles α) (binding : ProfileBinding) : Prop :=
  ∀ event ∈ program.trace answers.environment binding,
    ∀ used, dereferences event.request used → permitted used

/-- The step uses no device but one that it may. -/
def ProfileStep.Guarded (step : ProfileStep) (binding : ProfileBinding) :
    Prop :=
  step.event.Happens binding.bound →
    Uses (step.event.MayUse binding ·) step.answers step.event.program
      binding

/-! ## Histories -/

/-- What the steps since the module was loaded say: besides what they made of
the variables, the device of the last probe, if there was one. -/
structure ProfileHistory where
  binding : ProfileBinding
  latest : Option Device

namespace ProfileHistory

def loaded : ProfileHistory where
  binding := ProfileBinding.loaded
  latest := none

def run (step : ProfileStep) (history : ProfileHistory) : ProfileHistory where
  binding := step.run history.binding
  latest :=
    match step.event with
    | .probe device =>
        if device ∈ history.binding.bound then history.latest
        else some device
    | _ => history.latest

/-- The device of the last probe is bound, or there was no probe. -/
def LatestBound (history : ProfileHistory) : Prop :=
  ∀ device, history.latest = some device → device ∈ history.binding.bound

/-- The attribute is read, and a profile is stored, only while the device of
the last probe is bound.  The same holds of the work, which is not executed
either before there was a probe. -/
def Timely (step : ProfileStep) (history : ProfileHistory) : Prop :=
  match step.event with
  | .store device buffer _ =>
      device ∈ history.binding.bound →
        (platformProfileValue buffer).isSome = true → history.LatestBound
  | .read device => device ∈ history.binding.bound → history.LatestBound
  | .workExecution =>
      history.binding.queued = true →
        history.latest ≠ none ∧ history.LatestBound
  | _ => True

end ProfileHistory

/-! ## What the programs use -/

section Uses

variable {permitted : Option Device → Prop} {answers : ProfileAnswers}
  {binding : ProfileBinding} {α β : Type}

theorem uses_pure (value : α) :
    Uses permitted answers (pure value) binding := by
  intro event member
  cases member

theorem uses_bind_iff {program : Profiles β} {rest : β → Profiles α} :
    Uses permitted answers (program >>= rest) binding ↔
      Uses permitted answers program binding ∧
        Uses permitted answers
          (rest (program.run answers.environment binding).1)
          (program.run answers.environment binding).2 := by
  unfold Uses
  rw [Program.trace_bind]
  exact List.forall_mem_append

theorem uses_request_iff {item : ProfileRequest} :
    Uses permitted answers (request item) binding ↔
      ∀ used, dereferences item used → permitted used :=
  List.forall_mem_singleton

theorem uses_request_bind {item : ProfileRequest}
    {rest : item.Answer → Profiles α}
    (here : ∀ used, dereferences item used → permitted used)
    (later : Uses permitted answers
      (rest (answers.environment item binding).1)
      (answers.environment item binding).2) :
    Uses permitted answers (request item >>= rest) binding :=
  uses_bind_iff.mpr ⟨uses_request_iff.mpr here, later⟩

/-- Requests that use no device. -/
def UsesNone (item : ProfileRequest) : Prop :=
  ∀ used, ¬ dereferences item used

theorem uses_of_usesNone {program : Profiles α}
    (asks : program.Asks UsesNone) :
    Uses permitted answers program binding :=
  fun _ member used uses => absurd uses (asks.of_mem_trace member used)

theorem uses_ite {condition : Prop} [Decidable condition]
    {first second : Profiles α}
    (positive : condition → Uses permitted answers first binding)
    (negative : ¬ condition → Uses permitted answers second binding) :
    Uses permitted answers (if condition then first else second)
      binding := by
  split
  · exact positive ‹_›
  · exact negative ‹_›

theorem run_nb05WmiAaMethod_keeps (methodId : U32) (input : Option U64) :
    ((nb05WmiAaMethod methodId input).run answers.environment binding).2 =
      binding := by
  obtain ⟨wmiDev⟩ := binding
  cases wmiDev with
  | _ => rfl

/-- A method is evaluated through the variable, unless it is `NULL`. -/
theorem uses_nb05WmiAaMethod_iff (methodId : U32) (input : Option U64) :
    Uses permitted answers (nb05WmiAaMethod methodId input) binding ↔
      ∀ device, binding.wmiDev = some device → permitted (some device) := by
  rw [nb05WmiAaMethod, uses_bind_iff]
  obtain ⟨wmiDev⟩ := binding
  constructor
  · rintro ⟨_, evaluates⟩ device rfl
    exact uses_request_iff.mp (uses_bind_iff.mp evaluates).1 _ rfl
  · intro held
    refine ⟨uses_request_iff.mpr fun _ => False.elim, ?_⟩
    cases wmiDev with
    | none => exact uses_pure _
    | some device =>
        refine uses_bind_iff.mpr ⟨?_, uses_pure _⟩
        rw [uses_request_iff]
        rintro _ rfl
        exact held device rfl

theorem uses_writeProfile_iff (profile : U64) :
    Uses permitted answers (writeProfile profile) binding ↔
      ∀ device, binding.wmiDev = some device → permitted (some device) := by
  have bumps :
      Uses permitted answers profileChangedTimerBump binding :=
    uses_of_usesNone ⟨fun _ => id, fun _ => ⟨fun _ => id, fun _ => trivial⟩⟩
  rw [writeProfile, uses_bind_iff, uses_bind_iff, uses_nb05WmiAaMethod_iff]
  exact ⟨fun uses => uses.2.1, fun held => ⟨bumps, held, uses_pure _⟩⟩

end Uses

/-! ## What a step keeps -/

section Kept

/-- Requests that leave the variable as it is. -/
def PublishesNone (item : ProfileRequest) : Prop :=
  ∀ wmiDev, item ≠ .setWmiDev wmiDev

theorem run_keepsWmiDev {α : Type} {program : Profiles α}
    (asks : program.Asks PublishesNone) (answers : ProfileAnswers)
    (binding : ProfileBinding) :
    (program.run answers.environment binding).2.wmiDev =
      binding.wmiDev := by
  have step (item : ProfileRequest) (reached : ProfileBinding)
      (allowed : PublishesNone item)
      (same : reached.wmiDev = binding.wmiDev) :
      (answers.environment item reached).2.wmiDev = binding.wmiDev := by
    cases item with
    | setWmiDev wmiDev => exact absurd rfl (allowed wmiDev)
    | setLastChosenProfile data profile =>
        cases data with
        | _ => exact same
    | _ => exact same
  exact asks.run_preserves answers.environment _ step rfl

/-- No program changes which devices are bound. -/
theorem run_keepsBound {α : Type} (program : Profiles α)
    (answers : ProfileAnswers) (binding : ProfileBinding) :
    (program.run answers.environment binding).2.bound = binding.bound := by
  have step (item : ProfileRequest) (reached : ProfileBinding)
      (_ : True) (same : reached.bound = binding.bound) :
      (answers.environment item reached).2.bound = binding.bound := by
    cases item with
    | setLastChosenProfile data profile =>
        cases data with
        | _ => exact same
    | _ => exact same
  exact
    program.asks_any.run_preserves answers.environment _ step rfl

/-- No program takes the driver data from a device. -/
theorem run_keepsDriverData {α : Type} (program : Profiles α)
    (answers : ProfileAnswers) {binding : ProfileBinding} {device : Device}
    (held : (binding.driverData device).isSome = true) :
    ((program.run answers.environment binding).2.driverData
      device).isSome = true := by
  have updated (reached : ProfileBinding) (other : Device) (profile : U64)
      (still : (reached.driverData device).isSome = true) :
      ((reached.setDriverData other (some profile)).driverData
        device).isSome = true := by
    simp only [ProfileBinding.setDriverData, Function.update_apply]
    split
    · rfl
    · exact still
  have step (item : ProfileRequest) (reached : ProfileBinding)
      (_ : True) (still : (reached.driverData device).isSome = true) :
      ((answers.environment item reached).2.driverData
        device).isSome = true := by
    cases item with
    | setDrvdata other => exact updated reached other 0 still
    | setLastChosenProfile data profile =>
        cases data with
        | none => exact still
        | some other => exact updated reached other profile still
    | _ => exact still
  exact
    program.asks_any.run_preserves answers.environment
      (fun reached => (reached.driverData device).isSome = true) step held

end Kept

/-! ## The programs of the events -/

section Programs

/-- Requests of the notification and of the timer. -/
def Passive (item : ProfileRequest) : Prop :=
  UsesNone item ∧ PublishesNone item

theorem actOnEvent_passive (eventCode : U8) (deviceStatus : U16) :
    (actOnEvent eventCode deviceStatus).Asks Passive := by
  have asksBrightness (step : U8) :
      (request (.ledsNotifyBrightness step)).Asks Passive :=
    ⟨⟨fun _ => id, fun _ => nofun⟩, fun _ => trivial⟩
  apply Program.Asks.ite
  · intro _
    refine ⟨⟨fun _ => id, fun _ => nofun⟩, fun byDriver => ?_⟩
    apply Program.Asks.ite
    · intro _
      refine ⟨⟨fun _ => id, fun _ => nofun⟩, fun _ => ?_⟩
      exact ⟨⟨fun _ => id, fun _ => nofun⟩, fun _ => trivial⟩
    · intro _
      trivial
  · intro _
    apply Program.Asks.ite fun _ => asksBrightness 2
    intro _
    apply Program.Asks.ite fun _ => asksBrightness 1
    intro _
    apply Program.Asks.ite fun _ => asksBrightness 0
    intro _
    apply Program.Asks.ite fun _ => asksBrightness _
    intro _
    trivial

theorem notify_passive (object : Option AcpiObject) :
    (ProfileEvent.notify object).program.Asks Passive := by
  have notified : (tuxedoNb05KeyboardNotify object).Asks Passive := by
    unfold tuxedoNb05KeyboardNotify
    split
    · apply (actOnEvent_passive _ _).bind
      intro _
      refine ⟨⟨fun _ => id, fun _ => nofun⟩, fun _ => ?_⟩
      exact ⟨⟨fun _ => id, fun _ => nofun⟩, fun _ => trivial⟩
    · trivial
  exact notified.bind fun _ => trivial

theorem timerExpiry_passive :
    ProfileEvent.timerExpiry.program.Asks Passive := by
  refine ⟨⟨fun _ => id, fun _ => nofun⟩, fun expired => ?_⟩
  cases expired with
  | false => trivial
  | true =>
      refine ⟨⟨fun _ => id, fun _ => nofun⟩, fun _ => ?_⟩
      exact ⟨⟨fun _ => id, fun _ => nofun⟩, fun _ => trivial⟩

theorem nb05WmiAaMethod_publishesNone (methodId : U32)
    (input : Option U64) :
    (nb05WmiAaMethod methodId input).Asks PublishesNone := by
  refine ⟨fun _ => nofun, fun wmiDev => ?_⟩
  cases wmiDev with
  | none => trivial
  | some device => exact ⟨fun _ => nofun, fun _ => trivial⟩

theorem writeProfile_publishesNone (profile : U64) :
    (writeProfile profile).Asks PublishesNone := by
  refine ⟨fun _ => nofun, fun _ => ⟨fun _ => nofun, fun _ => ?_⟩⟩
  exact (nb05WmiAaMethod_publishesNone 1 _).bind fun _ => trivial

theorem rewriteLastProfileInternal_publishesNone :
    rewriteLastProfileInternal.Asks PublishesNone := by
  refine ⟨fun _ => nofun, fun _ => ⟨fun _ => nofun, fun _ => ?_⟩⟩
  apply (nb05WmiAaMethod_publishesNone 2 none).bind
  intro current
  cases current with
  | error err => trivial
  | ok currentProfile =>
      refine ⟨fun _ => nofun, fun lastChosen => ?_⟩
      apply Program.Asks.ite
      · intro _
        exact
          ⟨fun _ => nofun, fun profile => writeProfile_publishesNone profile⟩
      · intro _
        trivial

/-- Only a probe publishes a device. -/
theorem program_publishesNone (event : ProfileEvent)
    (notProbe : ∀ device, event ≠ .probe device) :
    event.program.Asks PublishesNone := by
  cases event with
  | probe device => exact absurd rfl (notProbe device)
  | remove device =>
      refine ⟨fun _ => nofun, fun _ => ⟨fun _ => nofun, fun _ => ?_⟩⟩
      exact
        ⟨fun _ => nofun, fun _ => ⟨fun _ => nofun, fun _ => trivial⟩⟩
  | store device buffer size =>
      refine ⟨fun _ => nofun, fun driverData => ?_⟩
      cases platformProfileValue buffer with
      | none => trivial
      | some profile =>
          apply (writeProfile_publishesNone profile).bind
          intro err
          refine Program.Asks.ite (fun _ => trivial) fun _ => ?_
          exact ⟨fun _ => nofun, fun _ => trivial⟩
  | read device =>
      have shown : platformProfileShow.Asks PublishesNone := by
        apply (nb05WmiAaMethod_publishesNone 2 none).bind
        intro current
        cases current with
        | error err => trivial
        | ok value =>
            simp only
            split
            · trivial
            · trivial
      exact shown.bind fun _ => Program.asks_pure 0
  | notify object => exact (notify_passive object).mono fun _ => And.right
  | timerExpiry => exact timerExpiry_passive.mono fun _ => And.right
  | workExecution =>
      refine ⟨fun _ => nofun, fun taken => ?_⟩
      cases taken with
      | false => trivial
      | true =>
          have handled : nb05RewriteProfileWorkHandler.Asks PublishesNone :=
            rewriteLastProfileInternal_publishesNone.bind
              fun _ => Program.asks_pure ()
          have ends : (request .endWork).Asks PublishesNone :=
            ⟨fun _ => nofun, fun _ => trivial⟩
          exact
            (handled.bind fun _ => ends).bind fun _ => Program.asks_pure 0

end Programs

/-! ## What the events use -/

section Events

variable {answers : ProfileAnswers} {binding : ProfileBinding}

/-- A probe uses the device that it is given, which it has published. -/
theorem uses_probe (wdev : Device) :
    Uses (· = some wdev) answers (tuxedoNb05PowerProfilesProbe wdev)
      binding := by
  have quiet (used : Option Device) (uses : False) : used = some wdev :=
    uses.elim
  refine uses_request_bind quiet (uses_request_bind quiet ?_)
  refine uses_ite (fun _ => uses_pure _) fun _ => ?_
  refine uses_request_bind quiet ?_
  refine uses_ite (fun _ => uses_pure _) fun _ => ?_
  refine uses_request_bind quiet ?_
  refine uses_ite (fun _ => uses_pure _) fun _ => ?_
  refine uses_request_bind quiet (uses_bind_iff.mpr ⟨?_, ?_⟩)
  · refine (uses_nb05WmiAaMethod_iff 2 none).mpr fun device held => ?_
    cases held
    rfl
  · split
    · exact uses_pure _
    · refine uses_request_bind (fun _ => id) ?_
      refine uses_request_bind quiet ?_
      refine uses_ite (fun _ => uses_pure _) fun _ => ?_
      refine uses_request_bind quiet ?_
      refine uses_ite (fun _ => ?_) fun _ => uses_pure _
      exact uses_request_bind quiet (uses_pure _)

theorem filter_of_live {device : Device}
    (live : binding.Live (some device)) :
    ((some device).filter fun held =>
      (binding.driverData held).isSome) = some device := by
  obtain ⟨_, ⟨⟩, _, data⟩ := live
  exact Option.filter_eq_some_iff.mpr ⟨rfl, data⟩

/-- A store that names no profile uses the driver data alone. -/
theorem uses_store_iff {device : Device} (buffer : String) (size : Nat)
    (live : binding.Live (some device)) :
    Uses binding.Live answers (platformProfileStore device buffer size)
        binding ↔
      ((platformProfileValue buffer).isSome = true →
        ∀ other, binding.wmiDev = some other →
          binding.Live (some other)) := by
  have first (used : Option Device) (uses : used = some device) :
      binding.Live used := uses ▸ live
  rw [platformProfileStore]
  cases platformProfileValue buffer with
  | none =>
      exact
        iff_of_true (uses_request_bind first (uses_pure _))
          fun named => nomatch named
  | some profile =>
      constructor
      · intro uses _
        have later := (uses_bind_iff.mp uses).2
        exact (uses_writeProfile_iff profile).mp (uses_bind_iff.mp later).1
      · intro held
        refine uses_request_bind first (uses_bind_iff.mpr ⟨?_, ?_⟩)
        · exact (uses_writeProfile_iff profile).mpr (held rfl)
        · refine uses_ite (fun _ => uses_pure _) fun _ => ?_
          refine uses_request_bind (fun used uses => ?_) (uses_pure _)
          exact first used (uses.trans (filter_of_live live))

theorem uses_read_iff (device : Device) :
    Uses binding.Live answers (ProfileEvent.read device).program binding ↔
      ∀ other, binding.wmiDev = some other →
        binding.Live (some other) := by
  constructor
  · intro uses
    have shown := (uses_bind_iff.mp uses).1
    exact (uses_nb05WmiAaMethod_iff 2 none).mp (uses_bind_iff.mp shown).1
  · intro held
    refine uses_bind_iff.mpr ⟨uses_bind_iff.mpr ⟨?_, ?_⟩, uses_pure _⟩
    · exact (uses_nb05WmiAaMethod_iff 2 none).mpr held
    · split
      · exact uses_pure _
      · split
        · exact uses_pure _
        · exact uses_pure _

/-- The rewrite uses the device of the variable whether there is one or
not. -/
theorem uses_rewriteLastProfileInternal_iff
    {permitted : Option Device → Prop}
    (kept : permitted binding.wmiDev →
      (binding.wmiDev.filter fun device =>
        (binding.driverData device).isSome) = binding.wmiDev) :
    Uses permitted answers rewriteLastProfileInternal binding ↔
      permitted binding.wmiDev := by
  constructor
  · intro uses
    have later := (uses_bind_iff.mp uses).2
    exact uses_request_iff.mp (uses_bind_iff.mp later).1 _ rfl
  · intro live
    have data (used : Option Device)
        (uses : used = binding.wmiDev.filter fun device =>
          (binding.driverData device).isSome) : permitted used := by
      rw [uses, kept live]
      exact live
    have held (device : Device) (here : binding.wmiDev = some device) :
        permitted (some device) := here ▸ live
    refine uses_request_bind (fun _ => False.elim) ?_
    refine uses_request_bind (fun _ uses => uses ▸ live) ?_
    refine
      uses_bind_iff.mpr ⟨(uses_nb05WmiAaMethod_iff 2 none).mpr held, ?_⟩
    rw [readProfile, run_nb05WmiAaMethod_keeps]
    split
    · exact uses_pure _
    · refine uses_request_bind data ?_
      refine uses_ite (fun _ => ?_) fun _ => uses_pure _
      refine uses_request_bind data ?_
      exact (uses_writeProfile_iff _).mpr held

theorem uses_workExecution_iff (queued : binding.queued = true) :
    Uses binding.Live answers ProfileEvent.workExecution.program binding ↔
      binding.Live binding.wmiDev := by
  obtain ⟨wmiDev, bound, driverData, changedByDriver, armed, _⟩ := binding
  subst queued
  let begun : ProfileBinding :=
    ⟨wmiDev, bound, driverData, changedByDriver, armed, false⟩
  have kept (live : begun.Live wmiDev) :
      (wmiDev.filter fun device => (driverData device).isSome) =
        wmiDev := by
    obtain ⟨device, rfl, member, data⟩ := live
    have held : begun.Live (some device) := ⟨device, rfl, member, data⟩
    exact filter_of_live held
  have rewrites :
      Uses begun.Live answers rewriteLastProfileInternal begun ↔
        begun.Live wmiDev :=
    uses_rewriteLastProfileInternal_iff kept
  refine Iff.trans ?_ rewrites
  constructor
  · intro uses
    have executed := (uses_bind_iff.mp (uses_bind_iff.mp uses).1).2
    have handled := (uses_bind_iff.mp executed).1
    exact (uses_bind_iff.mp handled).1
  · intro uses
    have handled :
        Uses begun.Live answers nb05RewriteProfileWorkHandler begun :=
      uses_bind_iff.mpr ⟨uses, uses_pure _⟩
    refine uses_bind_iff.mpr ⟨?_, uses_pure _⟩
    refine uses_request_bind (fun _ => False.elim) ?_
    refine uses_bind_iff.mpr ⟨handled, ?_⟩
    exact uses_request_iff.mpr fun _ => False.elim

theorem uses_workExecution_of_unqueued {permitted : Option Device → Prop}
    (unqueued : binding.queued = false) :
    Uses permitted answers ProfileEvent.workExecution.program binding := by
  obtain ⟨wmiDev, bound, driverData, changedByDriver, armed, _⟩ := binding
  subst unqueued
  refine uses_bind_iff.mpr ⟨?_, uses_pure _⟩
  exact uses_request_bind (fun _ => False.elim) (uses_pure _)

end Events

/-! ## Runs -/

namespace ProfileHistory

/-- A bound device has its driver data, and the variable holds the device of
the last probe. -/
structure Describes (binding : ProfileBinding) (history : ProfileHistory) :
    Prop where
  same : history.binding = binding
  latest : binding.wmiDev = history.latest
  nodup : binding.bound.Nodup
  driverData : ∀ device ∈ binding.bound,
    (binding.driverData device).isSome = true

variable {binding : ProfileBinding} {history : ProfileHistory}

namespace Describes

theorem live_iff (describes : Describes binding history)
    (device : Device) :
    binding.Live (some device) ↔ device ∈ binding.bound := by
  constructor
  · rintro ⟨_, ⟨⟩, member, _⟩
    exact member
  · intro member
    exact ⟨device, rfl, member, describes.driverData device member⟩

theorem latestBound_iff (describes : Describes binding history) :
    (∀ device, binding.wmiDev = some device →
        binding.Live (some device)) ↔
      history.LatestBound := by
  unfold LatestBound
  rw [describes.latest, describes.same]
  exact forall₂_congr fun device _ => describes.live_iff device

theorem live_wmiDev_iff (describes : Describes binding history) :
    binding.Live binding.wmiDev ↔
      history.latest ≠ none ∧ history.LatestBound := by
  rw [← describes.latestBound_iff, ← describes.latest]
  cases binding.wmiDev with
  | none =>
      refine iff_of_false ?_ fun both => both.1 rfl
      rintro ⟨_, ⟨⟩, _⟩
  | some device =>
      constructor
      · rintro live
        refine ⟨nofun, fun other same => ?_⟩
        cases same
        exact live
      · rintro ⟨_, live⟩
        exact live device rfl

end Describes

theorem guarded_iff_timely (step : ProfileStep) (binding : ProfileBinding)
    (history : ProfileHistory) (describes : Describes binding history) :
    step.Guarded binding ↔ Timely step history := by
  obtain ⟨event, answers⟩ := step
  cases event with
  | probe device =>
      exact iff_of_true (fun _ => uses_probe device) trivial
  | remove device =>
      refine iff_of_true (fun present => ?_) trivial
      have live := (describes.live_iff device).mpr present
      refine uses_bind_iff.mpr ⟨?_, uses_pure _⟩
      refine uses_request_bind (fun _ => False.elim) ?_
      refine uses_request_bind (fun _ uses => uses ▸ live) ?_
      refine uses_request_bind (fun _ => False.elim) ?_
      exact uses_request_iff.mpr fun _ => False.elim
  | store device buffer size =>
      unfold Timely ProfileStep.Guarded
      simp only [describes.same]
      refine forall_congr' fun present => ?_
      have live := (describes.live_iff device).mpr present
      rw [← describes.latestBound_iff]
      exact uses_store_iff buffer size live
  | read device =>
      unfold Timely ProfileStep.Guarded
      simp only [describes.same]
      refine forall_congr' fun present => ?_
      rw [← describes.latestBound_iff]
      exact uses_read_iff device
  | notify object =>
      have quiet := (notify_passive object).mono fun _ => And.left
      exact iff_of_true (fun _ => uses_of_usesNone quiet) trivial
  | timerExpiry =>
      have quiet := timerExpiry_passive.mono fun _ => And.left
      exact iff_of_true (fun _ => uses_of_usesNone quiet) trivial
  | workExecution =>
      unfold Timely ProfileStep.Guarded
      simp only [describes.same]
      cases queued : binding.queued with
      | false =>
          exact
            iff_of_true (fun _ => uses_workExecution_of_unqueued queued)
              fun taken => nomatch taken
      | true =>
          rw [← describes.live_wmiDev_iff, ← uses_workExecution_iff queued]
          exact ⟨fun uses _ => uses trivial, fun uses _ => uses rfl⟩

/-- What a step does that is neither a probe nor a removal. -/
theorem describes_keeps (describes : Describes binding history)
    {α : Type} {program : Profiles α}
    (asks : program.Asks PublishesNone) (answers : ProfileAnswers) :
    Describes (program.run answers.environment binding).2
      ⟨(program.run answers.environment binding).2, history.latest⟩ where
  same := rfl
  latest := (run_keepsWmiDev asks answers binding).trans describes.latest
  nodup := by
    rw [run_keepsBound]
    exact describes.nodup
  driverData := by
    intro device member
    rw [run_keepsBound] at member
    exact
      run_keepsDriverData program answers
        (describes.driverData device member)

/-- The driver core drops the driver data of a device that is not bound. -/
theorem describes_dropped {device : Device}
    (describes : Describes binding history)
    (unbound : device ∉ binding.bound) :
    Describes (binding.setDriverData device none)
      ⟨binding.setDriverData device none, history.latest⟩ where
  same := rfl
  latest := describes.latest
  nodup := describes.nodup
  driverData := by
    intro other member
    have distinct : other ≠ device :=
      fun same => unbound (same ▸ member)
    simp only [ProfileBinding.setDriverData,
      Function.update_of_ne distinct]
    exact describes.driverData other member

theorem describes_remove (describes : Describes binding history)
    (device : Device) :
    Describes
      { binding.setDriverData device none with
        bound := binding.bound.erase device }
      ⟨{ binding.setDriverData device none with
          bound := binding.bound.erase device },
        history.latest⟩ where
  same := rfl
  latest := describes.latest
  nodup := describes.nodup.erase device
  driverData := by
    intro other member
    have kept := describes.nodup.mem_erase_iff.mp member
    simp only [ProfileBinding.setDriverData,
      Function.update_of_ne kept.1]
    exact describes.driverData other kept.2

theorem run_probe_wmiDev (answers : ProfileAnswers) (wdev : Device)
    (binding : ProfileBinding) :
    ((tuxedoNb05PowerProfilesProbe wdev).run answers.environment
      binding).2.wmiDev = some wdev := by
  rw [tuxedoNb05PowerProfilesProbe, Program.run_bind, run_keepsWmiDev]
  · rfl
  refine ⟨fun _ => nofun, fun compatible => ?_⟩
  refine Program.Asks.ite (fun _ => trivial) fun _ => ?_
  refine ⟨fun _ => nofun, fun hasGuid => ?_⟩
  refine Program.Asks.ite (fun _ => trivial) fun _ => ?_
  refine ⟨fun _ => nofun, fun allocated => ?_⟩
  refine Program.Asks.ite (fun _ => trivial) fun _ => ?_
  refine ⟨fun _ => nofun, fun _ => ?_⟩
  refine (nb05WmiAaMethod_publishesNone 2 none).bind fun current => ?_
  cases current with
  | error err => trivial
  | ok profile =>
      refine ⟨fun _ => nofun, fun _ => ⟨fun _ => nofun, fun _ => ?_⟩⟩
      refine Program.Asks.ite (fun _ => trivial) fun _ => ?_
      refine ⟨fun _ => nofun, fun err => ?_⟩
      refine Program.Asks.ite (fun _ => ?_) fun _ => trivial
      exact ⟨fun _ => nofun, fun _ => trivial⟩

/-- A probe that succeeds has allocated the driver data. -/
theorem run_probe_driverData {answers : ProfileAnswers} {wdev : Device}
    {binding : ProfileBinding}
    (succeeds :
      ((tuxedoNb05PowerProfilesProbe wdev).run answers.environment
        binding).1 = 0) :
    (((tuxedoNb05PowerProfilesProbe wdev).run answers.environment
      binding).2.driverData wdev).isSome = true := by
  have set (reached : ProfileBinding) :
      (((request (.setDrvdata wdev)).run answers.environment
        reached).2.driverData wdev).isSome = true := by
    change (Function.update reached.driverData wdev _ wdev).isSome = true
    rw [Function.update_self]
    rfl
  simp only [tuxedoNb05PowerProfilesProbe, Program.run_bind,
    Program.run_ite] at succeeds ⊢
  split at succeeds
  · cases succeeds
  case isFalse compatible =>
    rw [if_neg compatible]
    split at succeeds
    · cases succeeds
    case isFalse hasGuid =>
      rw [if_neg hasGuid]
      split at succeeds
      · cases succeeds
      case isFalse allocated =>
        rw [if_neg allocated]
        exact
          run_keepsDriverData _ answers
            (run_keepsDriverData readProfile answers (set _))

theorem describes_probe (answers : ProfileAnswers) {device : Device}
    (describes : Describes binding history)
    (unbound : device ∉ binding.bound) :
    Describes
      (ProfileStep.run ⟨.probe device, answers⟩ binding)
      (run ⟨.probe device, answers⟩ history) := by
  let probed :=
    (tuxedoNb05PowerProfilesProbe device).run answers.environment binding
  have bound : probed.2.bound = binding.bound :=
    run_keepsBound _ answers binding
  have data (other : Device) (member : other ∈ binding.bound) :
      (probed.2.driverData other).isSome = true :=
    run_keepsDriverData _ answers (describes.driverData other member)
  have described : Describes probed.2 ⟨probed.2, some device⟩ :=
    { same := rfl
      latest := run_probe_wmiDev answers device binding
      nodup := bound ▸ describes.nodup
      driverData := fun other member => data other (bound ▸ member) }
  have latest :
      (run ⟨.probe device, answers⟩ history).latest = some device := by
    simp only [run, describes.same, if_neg unbound]
  have same :
      (run ⟨.probe device, answers⟩ history).binding =
        ProfileStep.run ⟨.probe device, answers⟩ binding := by
    simp only [run, describes.same]
  have reached :
      ProfileStep.run ⟨.probe device, answers⟩ binding =
        ProfileEvent.settle probed.1 probed.2 (.probe device) :=
    if_pos unbound
  rw [reached] at same ⊢
  by_cases succeeds : probed.1 = 0
  · simp only [ProfileEvent.settle, if_pos succeeds] at same ⊢
    refine ⟨same, described.latest.trans latest.symm, ?_, ?_⟩
    · exact List.nodup_cons.mpr ⟨bound ▸ unbound, described.nodup⟩
    · intro other member
      rcases List.mem_cons.mp member with rfl | earlier
      · exact run_probe_driverData succeeds
      · exact described.driverData other earlier
  · simp only [ProfileEvent.settle, if_neg succeeds] at same ⊢
    have dropped := describes_dropped described (bound ▸ unbound)
    exact
      ⟨same, dropped.latest.trans latest.symm, dropped.nodup,
        dropped.driverData⟩

theorem describes_run (step : ProfileStep) (binding : ProfileBinding)
    (history : ProfileHistory) (describes : Describes binding history) :
    Describes (step.run binding) (run step history) := by
  obtain ⟨same, _, _, _⟩ := id describes
  subst same
  by_cases happens : step.event.Happens history.binding.bound
  · obtain ⟨event, answers⟩ := step
    have others (notProbe : ∀ device, event ≠ .probe device) :=
      describes_keeps describes (program_publishesNone event notProbe)
        answers
    cases event with
    | probe device => exact describes_probe answers describes happens
    | remove device =>
        simp only [run, ProfileStep.run, if_pos happens]
        have removed := describes_remove (others nofun) device
        exact removed
    | store device buffer size =>
        simp only [run, ProfileStep.run, if_pos happens]
        exact others nofun
    | read device =>
        simp only [run, ProfileStep.run, if_pos happens]
        exact others nofun
    | notify object =>
        simp only [run, ProfileStep.run, if_pos happens]
        exact others nofun
    | timerExpiry =>
        simp only [run, ProfileStep.run, if_pos happens]
        exact others nofun
    | workExecution =>
        simp only [run, ProfileStep.run, if_pos happens]
        exact others nofun
  · have unchanged : run step history = history := by
      obtain ⟨event, answers⟩ := step
      cases event with
      | probe device =>
          have member := not_not.mp happens
          simp only [run, ProfileStep.run, if_neg happens, if_pos member]
      | _ => simp only [run, ProfileStep.run, if_neg happens]
    rw [unchanged, ProfileStep.run, if_neg happens]
    exact describes

theorem describes_loaded :
    Describes ProfileBinding.loaded ProfileHistory.loaded where
  same := rfl
  latest := rfl
  nodup := List.nodup_nil
  driverData := nofun

end ProfileHistory

theorem profiles_guarded_iff (steps : List ProfileStep) :
    EachStep ProfileStep.run ProfileStep.Guarded steps
        ProfileBinding.loaded ↔
      EachStep ProfileHistory.run ProfileHistory.Timely steps
        ProfileHistory.loaded :=
  eachStep_iff_of_simulation ProfileHistory.guarded_iff_timely
    ProfileHistory.describes_run steps ProfileHistory.describes_loaded

end TuxedoDrivers.WmiBinding.PowerProfiles
