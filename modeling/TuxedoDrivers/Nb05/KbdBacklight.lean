import TuxedoDrivers.Interaction.Mirror
import TuxedoDrivers.Nb05.EcClients
import TuxedoDrivers.WmiKeyboards

/-!
# The keyboard backlight of the NB05 machines

The firmware changes the brightness when its keys are pressed and says so in
a WMI notification; user space sets it by the LED device.  The driver takes
the brightness of a notification for that of the keyboard.  So the LED device
is right in the end exactly if user space does not set another brightness
while such a notification waits.
-/

namespace TuxedoDrivers.Nb05

open Interaction
open TuxedoDrivers.Nb05.PowerProfiles
open TuxedoDrivers.Wmi
open TuxedoDrivers.WmiKeyboards (Answers)

/-! ## The LED device -/

/-- The brightness of the LED device, once it is registered. -/
def nb05LedsNotifyBrightnessChangeExtern (brightness : Option U32)
    (step : U8) : Option U32 :=
  if step.toNat > nb05KbdBrightnessMaxWhite then
    brightness
  else
    brightness.map fun _ => step.setWidth 32

/-- The LED device beside the rest of the drivers. -/
def ledEnvironment (answers : Answers) :
    Environment profileSignature (Option U32) :=
  fun request brightness =>
    (answers request,
      match request with
      | .ledsNotifyBrightness step =>
          nb05LedsNotifyBrightnessChangeExtern brightness step
      | _ => brightness)

/-- What an event with its status says of the brightness. -/
def eventStep (eventCode : U8) (deviceStatus : U16) : Option U8 :=
  if eventCode = nb05WmiEventKbdBrtMax then some 2
  else if eventCode = nb05WmiEventKbdBrtMiddle then some 1
  else if eventCode = nb05WmiEventKbdBrtOff then some 0
  else if eventCode = nb05WmiEventKbdBrtChange then
    some (deviceStatus.setWidth 8)
  else none

/-- The brightness that a notification announces. -/
def announcedStep : Option AcpiObject → Option U8
  | some (.buffer (_ :: eventCode :: low :: high :: _)) =>
      (eventStep eventCode (high ++ low)).filter fun step =>
        decide (step.toNat ≤ nb05KbdBrightnessMaxWhite)
  | _ => none

section Notification

variable (answers : Answers) (brightness : Option U32)

theorem run_actOnEvent_led (eventCode : U8) (deviceStatus : U16) :
    ((actOnEvent eventCode deviceStatus).run (ledEnvironment answers)
        brightness).2 =
      (eventStep eventCode deviceStatus).elim brightness
        (nb05LedsNotifyBrightnessChangeExtern brightness) := by
  by_cases isMode : eventCode = nb05WmiEventModePowerSave ∨
      eventCode = nb05WmiEventModeBalance ∨
      eventCode = nb05WmiEventModeHighPerformance
  · have asked :
        profileChangedByDriver.run (ledEnvironment answers) brightness =
          (answers .getProfileChangedByDriverFlag, brightness) :=
      rfl
    have noStep : eventStep eventCode deviceStatus = none := by
      rcases isMode with rfl | rfl | rfl <;> rfl
    rw [actOnEvent_of_mode isMode, Program.run_bind, asked, noStep,
      Program.run_ite]
    split <;> rfl
  · rw [actOnEvent, if_neg isMode, eventStep]
    split_ifs <;> rfl

/-- A notification sets the LED device to what it announces. -/
theorem run_tuxedoNb05KeyboardNotify_led (object : Option AcpiObject) :
    ((tuxedoNb05KeyboardNotify object).run (ledEnvironment answers)
        brightness).2 =
      (announcedStep object).elim brightness
        fun step => brightness.map fun _ => step.setWidth 32 := by
  by_cases expected :
      ∃ functionNumber eventCode low high rest,
        object =
          some (.buffer (functionNumber :: eventCode :: low :: high :: rest))
  · obtain ⟨functionNumber, eventCode, low, high, rest, rfl⟩ := expected
    have reported (code : U32) (reached : Option U32) :
        ((request (.sparseKeymapReport code)).run (ledEnvironment answers)
          reached).2 = reached :=
      rfl
    simp only [tuxedoNb05KeyboardNotify, announcedStep, Program.run_bind,
      reported, run_actOnEvent_led]
    rcases eventStep eventCode (high ++ low) with _ | step
    · rfl
    · simp only [Option.elim_some, nb05LedsNotifyBrightnessChangeExtern,
        Option.filter_some]
      by_cases inRange : step.toNat ≤ nb05KbdBrightnessMaxWhite
      · rw [if_neg (not_lt.mpr inRange), decide_eq_true inRange]
        rfl
      · rw [if_pos (not_le.mp inRange), decide_eq_false inRange]
        rfl
  · have ignored : tuxedoNb05KeyboardNotify object = pure () := by
      unfold tuxedoNb05KeyboardNotify
      split
      · exact absurd ⟨_, _, _, _, _, rfl⟩ expected
      · rfl
    have silent : announcedStep object = none := by
      unfold announcedStep
      split
      · exact absurd ⟨_, _, _, _, _, rfl⟩ expected
      · rfl
    rw [ignored, silent]
    rfl

end Notification

/-! ## The machine -/

/-- What the register holds for a brightness. -/
def kbdLevel (brightness : Nat) : U8 :=
  whiteBrightnessToLevelMap.getD brightness 0

/-- Every brightness has a level of its own. -/
theorem kbdLevel_inj {brightness other : Nat}
    (inRange : brightness ≤ nb05KbdBrightnessMaxWhite)
    (otherInRange : other ≤ nb05KbdBrightnessMaxWhite) :
    kbdLevel brightness = kbdLevel other ↔ brightness = other := by
  have apart : ∀ first < 3, ∀ second < 3,
      kbdLevel first = kbdLevel second → first = second := by
    decide
  constructor
  · intro same
    have upper : brightness ≤ 2 := inRange
    have otherUpper : other ≤ 2 := otherInRange
    exact apart brightness (by omega) other (by omega) same
  · exact congrArg kbdLevel

/-- The brightness of the LED device, the EC RAM and the notifications that
wait, the oldest first. -/
structure KbdMachine where
  brightness : Option U32
  ram : Ram
  notifications : List (Option AcpiObject)

/-- Something that happens: a store to the LED device, a notification that
the firmware sends, its delivery to the driver, or a call of another
client. -/
inductive KbdOp where
  | store (value : U32)
  | notify (object : Option AcpiObject)
  | deliver (answers : Answers)
  | fan (attr : FanAttr) (call : FanCall)
  | hwmonRead (type : HwmonSensorType) (attr : HwmonFanAttr) (channel : Int)

/-- The LED core limits what is stored. -/
def storedBrightness (value : U32) : U32 :=
  if value.toNat ≤ nb05KbdBrightnessMaxWhite then value else 2

theorem storedBrightness_le (value : U32) :
    (storedBrightness value).toNat ≤ nb05KbdBrightnessMaxWhite := by
  rw [storedBrightness]
  split
  · assumption
  · decide

namespace KbdOp

/-- A store is kept before the driver is called.  A notification comes when
the keyboard has the brightness that it announces. -/
def run (clients : EcClients) (op : KbdOp) (machine : KbdMachine) :
    KbdMachine :=
  match op with
  | .store value =>
      { machine with
        brightness := machine.brightness.map fun _ => storedBrightness value
        ram :=
          ((nb05LedsSetBrightness clients.ident
            (storedBrightness value)).run ramEc machine.ram).2 }
  | .notify object =>
      { machine with
        ram :=
          (announcedStep object).elim machine.ram fun step =>
            Function.update machine.ram (nb05KbdRegister clients.ident)
              (kbdLevel step.toNat)
        notifications := machine.notifications ++ [object] }
  | .deliver answers =>
      match machine.notifications with
      | [] => machine
      | object :: rest =>
          { machine with
            brightness :=
              ((tuxedoNb05KeyboardNotify object).run
                (ledEnvironment answers) machine.brightness).2
            notifications := rest }
  | .fan attr call =>
      { machine with
        ram :=
          (((EcCall.fan attr call).program clients).run ramEc
            machine.ram).2 }
  | .hwmonRead type attr channel =>
      { machine with
        ram :=
          (((EcCall.hwmonRead type attr channel).program clients).run ramEc
            machine.ram).2 }

end KbdOp

namespace KbdMachine

/-- The LED device is registered and has a brightness of the keyboard. -/
def Registered (machine : KbdMachine) : Prop :=
  ∃ brightness, machine.brightness = some brightness ∧
    brightness.toNat ≤ nb05KbdBrightnessMaxWhite

/-- The LED device says what the keyboard shows. -/
def Right (clients : EcClients) (machine : KbdMachine) : Prop :=
  ∀ brightness, machine.brightness = some brightness →
    machine.ram (nb05KbdRegister clients.ident) =
      kbdLevel brightness.toNat

/-- So it does once all notifications that wait are delivered. -/
def Settles (clients : EcClients) (machine : KbdMachine) : Prop :=
  ∀ answers : Answers,
    (runSteps (KbdOp.run clients)
      (List.replicate machine.notifications.length (.deliver answers))
      machine).Right clients

/-- The last brightness that is announced and not delivered. -/
def lastAnnounced (machine : KbdMachine) : Option U8 :=
  (machine.notifications.filterMap announcedStep).getLast?

end KbdMachine

/-- While a brightness is announced no other is stored. -/
def KbdOp.InOrder (op : KbdOp) (machine : KbdMachine) : Prop :=
  ∀ value, op = .store value → ∀ step, machine.lastAnnounced = some step →
    step.toNat = (storedBrightness value).toNat

/-! ## What a step is for the copy -/

section Steps

variable (clients : EcClients)

namespace KbdMachine

/-- The levels: that of the keyboard, that of the LED device, and those that
are announced. -/
def mirror (machine : KbdMachine) : Mirror U8 U8 where
  device := machine.ram (nb05KbdRegister clients.ident)
  copy := machine.brightness.elim 0 fun brightness =>
    kbdLevel brightness.toNat
  waiting :=
    (machine.notifications.filterMap announcedStep).map fun step =>
      kbdLevel step.toNat

end KbdMachine

/-- At most one step, and none where the brightness is not concerned. -/
def KbdOp.mirrorSteps (op : KbdOp) (machine : KbdMachine) :
    List (MirrorStep U8) :=
  match op with
  | .store value => [.set (kbdLevel (storedBrightness value).toNat)]
  | .notify object =>
      (announcedStep object).elim [] fun step =>
        [.change (kbdLevel step.toNat)]
  | .deliver _ =>
      match machine.notifications with
      | [] => []
      | object :: _ => (announcedStep object).elim [] fun _ => [.handle]
  | .fan _ _ | .hwmonRead _ _ _ => []

theorem announcedStep_le {object : Option AcpiObject} {step : U8}
    (announced : announcedStep object = some step) :
    step.toNat ≤ nb05KbdBrightnessMaxWhite := by
  unfold announcedStep at announced
  split at announced
  · exact of_decide_eq_true (Option.filter_eq_some_iff.mp announced).2
  · cases announced

/-- The register of the backlight is none of a fan. -/
theorem kbdRegister_notOwned (ident : String) (attr : FanAttr) :
    ¬ attr.Owns (nb05KbdRegister ident) := by
  have register : nb05KbdRegister ident = 0x03e2 ∨
      nb05KbdRegister ident = 0x0409 := by
    rw [nb05KbdRegister]
    split
    · exact Or.inl rfl
    · exact Or.inr rfl
  intro owned
  cases attr with
  | pwm fan =>
      unfold FanAttr.Owns Fan.Owns at owned
      rcases register with here | here <;> rw [here] at owned <;>
        cases fan <;> simp [Fan.dutyTable, Fan.rpmTable] at owned
  | pwmEnable fan =>
      unfold FanAttr.Owns at owned
      rcases register with here | here <;> rw [here] at owned <;>
        cases fan <;> simp [Fan.enableRegister] at owned

/-- The other clients leave the keyboard alone. -/
theorem kbdRegister_call {call : EcCall}
    (other : ∀ brightness, call ≠ .setBrightness brightness) (ram : Ram) :
    ((call.program clients).run ramEc ram).2
        (nb05KbdRegister clients.ident) =
      ram (nb05KbdRegister clients.ident) := by
  apply Program.Asks.run_preserves ramEc
    (fun reached => reached (nb05KbdRegister clients.ident) =
      ram (nb05KbdRegister clients.ident))
    ?_ (call.asks_program clients) rfl
  intro request reached allowed unchanged
  cases request with
  | readEcRam address =>
      exact unchanged
  | writeEcRam address data =>
      have apart : nb05KbdRegister clients.ident ≠ address := by
        rintro rfl
        have writes : call.Writes clients _ data := allowed
        cases call with
        | probe => cases writes
        | hwmonRead type attr channel => cases writes
        | setBrightness brightness => exact other brightness rfl
        | fan attr call =>
            cases call with
            | display => cases writes
            | store buffer size =>
                exact kbdRegister_notOwned clients.ident attr
                  (FanAttr.owns_of_writes clients.fanControl attr writes.2)
      simp only [ramEc, Function.update_of_ne apart]
      exact unchanged

theorem run_nb05LedsSetBrightness (ident : String) (value : U32)
    (ram : Ram) :
    ((nb05LedsSetBrightness ident (storedBrightness value)).run ramEc
        ram).2 =
      Function.update ram (nb05KbdRegister ident)
        (kbdLevel (storedBrightness value).toNat) := by
  have inRange := storedBrightness_le value
  rw [nb05LedsSetBrightness, if_neg (not_lt.mpr inRange)]
  rfl

theorem KbdMachine.Registered.run {machine : KbdMachine}
    (registered : machine.Registered) (op : KbdOp) :
    (op.run clients machine).Registered := by
  obtain ⟨brightness, isBrightness, inRange⟩ := registered
  cases op with
  | store value =>
      refine ⟨storedBrightness value, ?_, storedBrightness_le value⟩
      simp only [KbdOp.run, isBrightness, Option.map_some]
  | notify object =>
      exact ⟨brightness, isBrightness, inRange⟩
  | deliver answers =>
      rcases waiting : machine.notifications with _ | ⟨object, rest⟩
      · simp only [KbdOp.run, waiting]
        exact ⟨brightness, isBrightness, inRange⟩
      · simp only [KbdOp.run, waiting, run_tuxedoNb05KeyboardNotify_led,
          isBrightness]
        rcases announced : announcedStep object with _ | step
        · exact ⟨brightness, rfl, inRange⟩
        · refine ⟨step.setWidth 32, rfl, ?_⟩
          have small : step.toNat ≤ 2 := announcedStep_le announced
          rw [BitVec.toNat_setWidth, Nat.mod_eq_of_lt (by omega)]
          exact small
  | fan attr call =>
      exact ⟨brightness, isBrightness, inRange⟩
  | hwmonRead type attr channel =>
      exact ⟨brightness, isBrightness, inRange⟩

/-- What happens to the machine is what happens to the copy. -/
theorem mirror_run {machine : KbdMachine}
    (registered : machine.Registered) (op : KbdOp) :
    (op.run clients machine).mirror clients =
      runSteps (Mirror.step (Handling.taking U8)) (op.mirrorSteps machine)
        (machine.mirror clients) := by
  obtain ⟨brightness, isBrightness, inRange⟩ := registered
  obtain ⟨kept, ram, notifications⟩ := machine
  obtain rfl : kept = some brightness := isBrightness
  cases op with
  | store value =>
      simp [KbdOp.run, KbdMachine.mirror, KbdOp.mirrorSteps, Mirror.step,
        run_nb05LedsSetBrightness]
  | notify object =>
      rcases announced : announcedStep object with _ | step
      · simp [KbdOp.run, KbdMachine.mirror, KbdOp.mirrorSteps, announced]
      · simp [KbdOp.run, KbdMachine.mirror, KbdOp.mirrorSteps, announced,
          Mirror.step, Handling.taking]
  | deliver answers =>
      cases notifications with
      | nil => rfl
      | cons object rest =>
          rcases announced : announcedStep object with _ | step
          · simp [KbdOp.run, KbdMachine.mirror, KbdOp.mirrorSteps,
              announced, run_tuxedoNb05KeyboardNotify_led]
          · have width : (step.setWidth 32).toNat = step.toNat := by
              rw [BitVec.toNat_setWidth]
              exact Nat.mod_eq_of_lt (by omega)
            simp [KbdOp.run, KbdMachine.mirror, KbdOp.mirrorSteps,
              announced, run_tuxedoNb05KeyboardNotify_led, Mirror.step,
              Handling.taking, width]
  | fan attr call =>
      have other (brightness : U32) :
          EcCall.fan attr call ≠ .setBrightness brightness := by
        simp
      have unchanged := kbdRegister_call clients other ram
      simp only [KbdOp.run, KbdMachine.mirror, KbdOp.mirrorSteps, unchanged]
      rfl
  | hwmonRead type attr channel =>
      have other (brightness : U32) :
          EcCall.hwmonRead type attr channel ≠
            .setBrightness brightness := by
        simp
      have unchanged := kbdRegister_call clients other ram
      simp only [KbdOp.run, KbdMachine.mirror, KbdOp.mirrorSteps, unchanged]
      rfl

theorem right_iff {machine : KbdMachine} (registered : machine.Registered) :
    machine.Right clients ↔
      (machine.mirror clients).copy = (machine.mirror clients).device := by
  obtain ⟨brightness, isBrightness, -⟩ := registered
  simp only [KbdMachine.Right, KbdMachine.mirror, isBrightness,
    Option.some.injEq, Option.elim_some]
  constructor
  · exact fun right => (right brightness rfl).symm
  · rintro same other rfl
    exact same.symm

/-- Where all notifications are delivered all announcements are handled. -/
theorem mirror_deliverAll (answers : Answers)
    (notifications : List (Option AcpiObject)) {machine : KbdMachine}
    (registered : machine.Registered)
    (wait : machine.notifications = notifications) :
    let settled :=
      runSteps (KbdOp.run clients)
        (List.replicate notifications.length (.deliver answers)) machine
    settled.Registered ∧
      settled.mirror clients =
        runSteps (Mirror.step (Handling.taking U8))
          (List.replicate (machine.mirror clients).waiting.length .handle)
          (machine.mirror clients) := by
  induction notifications generalizing machine with
  | nil =>
      have noneWaits : (machine.mirror clients).waiting = [] := by
        simp [KbdMachine.mirror, wait]
      rw [noneWaits]
      exact ⟨registered, rfl⟩
  | cons object rest inductionHypothesis =>
      have restWaits : ((KbdOp.deliver answers).run clients
          machine).notifications = rest := by
        simp [KbdOp.run, wait]
      have delivered := mirror_run clients registered (.deliver answers)
      obtain ⟨stillRegistered, settled⟩ :=
        inductionHypothesis (registered.run clients (.deliver answers))
          restWaits
      refine ⟨stillRegistered, settled.trans ?_⟩
      have counted :
          (((KbdOp.deliver answers).run clients machine).mirror
              clients).waiting.length =
            (rest.filterMap announcedStep).length := by
        simp [KbdMachine.mirror, restWaits]
      rw [counted, delivered, ← runSteps_append]
      congr 1
      rcases announced : announcedStep object with _ | step
      · simp [KbdOp.mirrorSteps, KbdMachine.mirror, wait, announced]
      · simp [KbdOp.mirrorSteps, KbdMachine.mirror, wait, announced,
          List.replicate_succ]

theorem settles_iff_mirror {machine : KbdMachine}
    (registered : machine.Registered) :
    machine.Settles clients ↔
      (machine.mirror clients).Settles (Handling.taking U8) := by
  have settled (answers : Answers) :=
    mirror_deliverAll clients answers machine.notifications registered rfl
  constructor
  · intro settles
    have right := settles (.ofFlag false)
    rw [right_iff clients (settled _).1, (settled _).2] at right
    exact right
  · intro settles answers
    rw [right_iff clients (settled answers).1, (settled answers).2]
    exact settles

/-- The last level that is announced is that of the last brightness. -/
theorem getLast?_waiting (machine : KbdMachine) :
    (machine.mirror clients).waiting.getLast? =
      machine.lastAnnounced.map fun step => kbdLevel step.toNat :=
  List.getLast?_map

theorem lastAnnounced_le {machine : KbdMachine} {step : U8}
    (isLast : machine.lastAnnounced = some step) :
    step.toNat ≤ nb05KbdBrightnessMaxWhite := by
  have member := List.mem_of_getLast? isLast
  obtain ⟨object, -, announced⟩ := List.mem_filterMap.mp member
  exact announcedStep_le announced

theorem inOrder_of_not_store {op : KbdOp} {machine : KbdMachine}
    (notStore : ∀ value, op ≠ .store value) : op.InOrder machine :=
  fun value isStore => absurd isStore (notStore value)

theorem inOrder_iff_mirror (op : KbdOp) (machine : KbdMachine) :
    op.InOrder machine ↔
      EachStep (Mirror.step (Handling.taking U8)) Mirror.InOrder
        (op.mirrorSteps machine) (machine.mirror clients) := by
  cases op with
  | store value =>
      have inRange := storedBrightness_le value
      constructor
      · intro inOrder
        refine ⟨?_, trivial⟩
        rintro level ⟨rfl⟩ last isLast
        rw [getLast?_waiting, Option.map_eq_some_iff] at isLast
        obtain ⟨step, isStep, rfl⟩ := isLast
        rw [inOrder value rfl step isStep]
      · rintro ⟨inOrder, -⟩ other ⟨rfl⟩ step isStep
        have same := inOrder _ rfl (kbdLevel step.toNat) (by
          rw [getLast?_waiting, isStep, Option.map_some])
        exact (kbdLevel_inj (lastAnnounced_le isStep) inRange).mp same
  | notify object =>
      refine iff_of_true (inOrder_of_not_store (by simp)) ?_
      rcases announced : announcedStep object with _ | step
      · simp [KbdOp.mirrorSteps, announced, EachStep]
      · simp [KbdOp.mirrorSteps, announced, EachStep, Mirror.InOrder]
  | deliver answers =>
      refine iff_of_true (inOrder_of_not_store (by simp)) ?_
      rcases wait : machine.notifications with _ | ⟨object, rest⟩
      · simp [KbdOp.mirrorSteps, wait, EachStep]
      · rcases announced : announcedStep object with _ | step
        · simp [KbdOp.mirrorSteps, wait, announced, EachStep]
        · simp [KbdOp.mirrorSteps, wait, announced, EachStep,
            Mirror.InOrder]
  | fan attr call =>
      exact iff_of_true (inOrder_of_not_store (by simp)) trivial
  | hwmonRead type attr channel =>
      exact iff_of_true (inOrder_of_not_store (by simp)) trivial

/-- What happens is at most one step. -/
theorem mirrorSteps_length (op : KbdOp) (machine : KbdMachine) :
    (op.mirrorSteps machine).length ≤ 1 := by
  cases op with
  | store value => exact le_refl 1
  | notify object =>
      rcases announced : announcedStep object with _ | step <;>
        simp [KbdOp.mirrorSteps, announced]
  | deliver answers =>
      rcases wait : machine.notifications with _ | ⟨object, rest⟩
      · simp [KbdOp.mirrorSteps, wait]
      · rcases announced : announcedStep object with _ | step <;>
          simp [KbdOp.mirrorSteps, wait, announced]
  | fan attr call => exact Nat.zero_le 1
  | hwmonRead type attr channel => exact Nat.zero_le 1

/-- What happens keeps the LED device right in the end exactly if it is in
order. -/
theorem settles_run_iff (op : KbdOp) {machine : KbdMachine}
    (registered : machine.Registered) (settles : machine.Settles clients) :
    (op.run clients machine).Settles clients ↔ op.InOrder machine := by
  rw [settles_iff_mirror clients registered] at settles
  rw [settles_iff_mirror clients (registered.run clients op),
    mirror_run clients registered op, inOrder_iff_mirror clients]
  have atMostOne := mirrorSteps_length op machine
  generalize op.mirrorSteps machine = steps at atMostOne ⊢
  rcases steps with _ | ⟨only, rest⟩
  · exact iff_of_true settles trivial
  · have noRest : rest = [] := by
      cases rest with
      | nil => rfl
      | cons second others =>
          simp at atMostOne
    subst noRest
    simp only [runSteps_cons, runSteps_nil, EachStep, and_true]
    exact Mirror.settles_step_iff only settles

end Steps

end TuxedoDrivers.Nb05
