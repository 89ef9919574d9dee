import TuxedoDrivers.Interaction.Runs
import TuxedoDrivers.Uniwill.FanControl

/-!
# Switching the full fan mode

`set_full_fan_mode` and the restart work in any order, on an EC whose accesses
succeed.  A call switches the mode off, or on from off.  A call that asks for
the mode it finds switched on takes the branch that is meant for switching it
off.
-/

namespace TuxedoDrivers.Uniwill

open Interaction

/-! ## The mode bit -/

/-- Bit 6 of the mode register. -/
def fullFanMode (ram : Ram) : Bool :=
  decide (ram 0x0751 &&& 0x40 ≠ 0)

theorem fullFanMode_eq_false_iff (ram : Ram) :
    fullFanMode ram = false ↔ ram 0x0751 &&& 0x40 = 0 := by
  simp [fullFanMode]

/-- The register content with the mode switched. -/
def switched (enable : Bool) (content : U8) : U8 :=
  if enable = true then content ||| 0x40 else content &&& ~~~0x40

theorem switched_mode (enable : Bool) (content : U8) :
    decide (switched enable content &&& 0x40 ≠ 0) = enable := by
  have bits : ∀ content : U8,
      decide ((content ||| 0x40) &&& 0x40 ≠ 0) = true ∧
        decide ((content &&& ~~~0x40) &&& 0x40 ≠ 0) = false := by
    decide
  cases enable with
  | true =>
      exact (bits content).1
  | false =>
      exact (bits content).2

theorem switched_others (enable : Bool) (content : U8) :
    switched enable content &&& ~~~0x40 = content &&& ~~~0x40 := by
  have bits : ∀ content : U8,
      (content ||| 0x40) &&& ~~~0x40 = content &&& ~~~0x40 ∧
        (content &&& ~~~0x40) &&& ~~~0x40 = content &&& ~~~0x40 := by
    decide
  cases enable with
  | true =>
      exact (bits content).1
  | false =>
      exact (bits content).2

/-- The mode and the other bits make up the register. -/
theorem content_eq_of_mode {first second : U8}
    (sameMode :
      decide (first &&& 0x40 ≠ 0) = decide (second &&& 0x40 ≠ 0))
    (sameOthers : first &&& ~~~0x40 = second &&& ~~~0x40) :
    first = second := by
  have parts : ∀ content : U8,
      content =
        switched (decide (content &&& 0x40 ≠ 0)) (content &&& ~~~0x40) := by
    decide
  rw [parts first, parts second, sameMode, sameOthers]

/-! ## One call -/

/-- The mode is what was asked for, and nothing else has changed. -/
structure ModeSwitched (enable : Bool) (before after : Ram) : Prop where
  mode : fullFanMode after = enable
  otherBits : after 0x0751 &&& ~~~0x40 = before 0x0751 &&& ~~~0x40
  elsewhere : ∀ address, address ≠ 0x0751 → after address = before address

/-- A call that switches the mode has no effect when it is made again. -/
theorem ModeSwitched.again {enable : Bool} {before after later : Ram}
    (first : ModeSwitched enable before after)
    (second : ModeSwitched enable after later) :
    later = after := by
  funext address
  by_cases modeRegister : address = 0x0751
  · rw [modeRegister]
    apply content_eq_of_mode
    · have sameMode := second.mode.trans first.mode.symm
      exact sameMode
    · exact second.otherBits
  · exact second.elsewhere address modeRegister

theorem modeSwitched_update (enable : Bool) (ram : Ram) :
    ModeSwitched enable ram
      (Function.update ram 0x0751 (switched enable (ram 0x0751))) := by
  constructor
  · rw [fullFanMode, Function.update_self]
    exact switched_mode enable (ram 0x0751)
  · rw [Function.update_self]
    exact switched_others enable (ram 0x0751)
  · intro address elsewhere
    exact Function.update_of_ne elsewhere _ _

/-- With the mode switched on already, it is switched off. -/
theorem run_setFullFanMode_true_of_set {machine : Machine Ram}
    (isSet : fullFanMode machine.2 = true) :
    (reliableEc.run (setFullFanMode true) machine).2 =
      (reliableEc.run (setFullFanMode false) machine).2 := by
  have bit : machine.2 0x0751 &&& 0x40 ≠ 0 := of_decide_eq_true isSet
  simp only [setFullFanMode, run_bind, run_uniwillReadEcRam,
    reliableEc_read, EcRead.data_ok, run_ite, bit]
  simp

/-- A call does what it is asked for, unless it asks for the mode that is on
already. -/
theorem modeSwitched_setFullFanMode_iff (enable : Bool)
    (machine : Machine Ram) :
    ModeSwitched enable machine.2
        (reliableEc.run (setFullFanMode enable) machine).2.2 ↔
      (enable = true → fullFanMode machine.2 = false) := by
  have switchedOff : ModeSwitched false machine.2
      (reliableEc.run (setFullFanMode false) machine).2.2 := by
    rw [run_setFullFanMode_false]
    exact modeSwitched_update false machine.2
  cases enable with
  | false =>
      apply iff_of_true switchedOff
      intro impossible
      cases impossible
  | true =>
      cases isSet : fullFanMode machine.2 with
      | false =>
          have clear := (fullFanMode_eq_false_iff machine.2).mp isSet
          apply iff_of_true
          · rw [run_setFullFanMode_true clear]
            exact modeSwitched_update true machine.2
          · intro _
            rfl
      | true =>
          apply iff_of_false
          · intro switchedOn
            have mode := switchedOn.mode
            rw [run_setFullFanMode_true_of_set isSet,
              switchedOff.mode] at mode
            cases mode
          · intro condition
            cases condition rfl

/-! ## The restart work -/

/-- The mode is on, and the fans run at the remembered speeds. -/
structure FansRestarted (fan : FanStatics) (after : Ram) : Prop where
  mode : fullFanMode after = true
  fan0 : after 0x1804 = fan.directFanControlCurrentValueFan0
  fan1 : after 0x1809 = fan.directFanControlCurrentValueFan1

theorem fansRestarted_runRestartWork (machine : Machine Ram) :
    FansRestarted machine.1.fan
      (reliableEc.run runRestartWork machine).2.2 := by
  have modeFan0 : (0x0751 : U16) ≠ 0x1804 := by
    decide
  have modeFan1 : (0x0751 : U16) ≠ 0x1809 := by
    decide
  have apart : (0x1804 : U16) ≠ 0x1809 := by
    decide
  have ram : (reliableEc.run runRestartWork machine).2.2 =
      Function.update
        (Function.update
          (Function.update machine.2 0x0751
            (switched true (machine.2 0x0751 &&& ~~~0x40)))
          0x1804 machine.1.fan.directFanControlCurrentValueFan0)
        0x1809 machine.1.fan.directFanControlCurrentValueFan1 :=
    congrArg Prod.snd (run_runRestartWork machine)
  rw [ram]
  constructor
  · rw [fullFanMode, Function.update_of_ne modeFan1,
      Function.update_of_ne modeFan0, Function.update_self]
    exact switched_mode true (machine.2 0x0751 &&& ~~~0x40)
  · rw [Function.update_of_ne apart, Function.update_self]
  · rw [Function.update_self]

/-! ## Calls and works in any order -/

inductive FullFanModeStep where
  | setFullFanMode (enable : Bool)
  | restartWork
  deriving DecidableEq, Repr

namespace FullFanModeStep

def step : FullFanModeStep → Machine Ram → Machine Ram
  | .setFullFanMode enable, machine =>
      (reliableEc.run (Uniwill.setFullFanMode enable) machine).2
  | .restartWork, machine => (reliableEc.run runRestartWork machine).2

/-- What a step is to do with the EC. -/
def Exact (item : FullFanModeStep) (before after : Machine Ram) : Prop :=
  match item with
  | .setFullFanMode enable => ModeSwitched enable before.2 after.2
  | .restartWork => FansRestarted before.1.fan after.2

/-- The mode is not asked for when it is on already. -/
def Condition : FullFanModeStep → Machine Ram → Prop
  | .setFullFanMode enable, machine =>
      enable = true → fullFanMode machine.2 = false
  | .restartWork, _ => True

theorem exact_iff (item : FullFanModeStep) (machine : Machine Ram) :
    item.Exact machine (item.step machine) ↔ item.Condition machine := by
  cases item with
  | setFullFanMode enable =>
      exact modeSwitched_setFullFanMode_iff enable machine
  | restartWork =>
      exact iff_of_true (fansRestarted_runRestartWork machine) trivial

/-- Every call and every work of a run does what it is to do exactly if no
call asks for the mode when it is on already. -/
theorem eachStep_exact_iff (steps : List FullFanModeStep)
    (machine : Machine Ram) :
    EachStep step (fun item before => item.Exact before (item.step before))
        steps machine ↔
      EachStep step Condition steps machine :=
  eachStep_congr exact_iff steps machine

/-- The mode that a step leaves, as the code decides it. -/
def nextMode : FullFanModeStep → Bool → Bool
  | .setFullFanMode enable, mode => enable && !mode
  | .restartWork, _ => true

theorem fullFanMode_step (item : FullFanModeStep) (machine : Machine Ram) :
    fullFanMode (item.step machine).2 =
      item.nextMode (fullFanMode machine.2) := by
  cases item with
  | restartWork =>
      exact (fansRestarted_runRestartWork machine).mode
  | setFullFanMode enable =>
      have exactly := modeSwitched_setFullFanMode_iff enable machine
      have switchedOff :=
        (modeSwitched_setFullFanMode_iff false machine).mpr nofun
      cases enable with
      | false =>
          exact switchedOff.mode
      | true =>
          cases isSet : fullFanMode machine.2 with
          | false =>
              exact (exactly.mpr fun _ => isSet).mode
          | true =>
              rw [step, run_setFullFanMode_true_of_set isSet]
              exact switchedOff.mode

/-- Whether a run goes as it is to depends on its first mode alone. -/
theorem eachStep_condition_iff_nextMode (steps : List FullFanModeStep)
    (machine : Machine Ram) :
    EachStep step Condition steps machine ↔
      EachStep nextMode
        (fun item mode => item = .setFullFanMode true → mode = false)
        steps (fullFanMode machine.2) := by
  have exactly : ∀ item (state : Machine Ram) mode,
      fullFanMode state.2 = mode →
      (Condition item state ↔
        (item = .setFullFanMode true → mode = false)) := by
    intro item state mode same
    subst same
    cases item with
    | setFullFanMode enable =>
        simp only [Condition, setFullFanMode.injEq]
    | restartWork =>
        exact iff_of_true trivial nofun
  have simulates : ∀ item (state : Machine Ram) mode,
      fullFanMode state.2 = mode →
      fullFanMode (step item state).2 = nextMode item mode := by
    intro item state mode same
    rw [fullFanMode_step, same]
  exact eachStep_iff_of_simulation exactly simulates steps rfl

/-- The mode is asked for twice, and the second call switches it off. -/
theorem not_eachStep_exact_enabledTwice :
    ¬ EachStep step
      (fun item before => item.Exact before (item.step before))
      [.setFullFanMode true, .setFullFanMode true]
      ({}, fun _ => 0) := by
  intro exactly
  have second := (exact_iff _ _).mp exactly.2.1 rfl
  rw [fullFanMode_step] at second
  revert second
  decide

end FullFanModeStep

end TuxedoDrivers.Uniwill
