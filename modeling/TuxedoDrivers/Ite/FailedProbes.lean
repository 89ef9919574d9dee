import TuxedoDrivers.Ite.Ite8291Lb
import TuxedoDrivers.Ite.Ite8297

/-!
# Probes that fail

What a probe that fails leaves: a device that was started and opened has to be
closed and stopped, once each, and a LED that `devm` does not manage has to be
unregistered.  Each exit of the three probes is compared with that.
-/

namespace TuxedoDrivers.Ite

open Interaction

/-! ## What is counted -/

/-- The requests that start or stop the device or concern a LED that `devm`
does not manage. -/
def concernsDevice : ProbeRequest → Bool
  | .hidHwStart => true
  | .hidHwStop => true
  | .hidHwOpen => true
  | .hidHwClose => true
  | .ledClassdevRegister _ => true
  | .ledClassdevUnregister _ => true
  | _ => false

/-- A program that leaves the device as it is. -/
abbrev LeavesDevice {α : Type} (program : Probe α) : Prop :=
  program.Asks fun item => concernsDevice item = false

/-- The weights of what concerns the device. -/
inductive DeviceWeight : ProbeWeight → Prop where
  | starts : DeviceWeight starts
  | stops : DeviceWeight stops
  | opens : DeviceWeight opens
  | closes : DeviceWeight closes
  | classRegistrations (led : ClassLedId) :
      DeviceWeight (classRegistrations led)
  | classUnregistrations (led : ClassLedId) :
      DeviceWeight (classUnregistrations led)

theorem DeviceWeight.eq_zero {weight : ProbeWeight}
    (isDevice : DeviceWeight weight) (event : Event probeSignature)
    (unconcerned : concernsDevice event.request = false) :
    weight event = 0 := by
  obtain ⟨item, answer⟩ := event
  cases isDevice <;> cases item <;> first | rfl | cases unconcerned

theorem LeavesDevice.tally_eq_zero {α : Type} {program : Probe α}
    (leaves : LeavesDevice program) {weight : ProbeWeight}
    (isDevice : DeviceWeight weight) (outcomes : Outcomes) (count : Nat) :
    program.tally weight outcomes.environment count = 0 :=
  Program.Asks.tally_eq_zero outcomes.environment count leaves
    isDevice.eq_zero

theorem leavesDevice_transferring {α : Type} (program : Hid α) :
    LeavesDevice (transferring program) := by
  apply (transferring_asks program).mono
  rintro item ⟨request, rfl⟩
  rfl

/-! ## A failed probe -/

/-- A failed probe has closed and stopped the device as often as it was opened
and started, and has unregistered its LEDs. -/
def LeavesStopped (outcomes : Outcomes) (probe : Probe Int) : Prop :=
  outcomes.result probe ≠ 0 →
    outcomes.count closes probe = outcomes.count opens probe ∧
      outcomes.count stops probe = outcomes.count starts probe ∧
      ∀ led, outcomes.count (classUnregistrations led) probe =
        outcomes.count (classRegistrations led) probe

/-- The same of the rest of a probe, which finds the device started and
opened. -/
def Releases (outcomes : Outcomes) (rest : Probe Int) : Prop :=
  outcomes.result rest ≠ 0 →
    outcomes.count closes rest = outcomes.count opens rest + 1 ∧
      outcomes.count stops rest = outcomes.count starts rest + 1 ∧
      ∀ led, outcomes.count (classUnregistrations led) rest =
        outcomes.count (classRegistrations led) rest

/-! ## Step by step -/

section Steps

variable {outcomes : Outcomes} {weight : ProbeWeight} {count : Nat}

/-- A step with this answer, which is no transfer. -/
theorem run_ask_bind {α : Type} (item : ProbeRequest) (answer : item.Answer)
    (answered : outcomes.environment item count = (answer, count))
    (next : item.Answer → Probe α) :
    (ask item >>= next).run outcomes.environment count =
      (next answer).run outcomes.environment count := by
  change (next (outcomes.environment item count).1).run outcomes.environment
    (outcomes.environment item count).2 = _
  rw [answered]

theorem tally_ask_bind {α : Type} (item : ProbeRequest)
    (answer : item.Answer)
    (answered : outcomes.environment item count = (answer, count))
    (next : item.Answer → Probe α) :
    (ask item >>= next).tally weight outcomes.environment count =
      weight ⟨item, answer⟩ +
        (next answer).tally weight outcomes.environment count := by
  change weight ⟨item, (outcomes.environment item count).1⟩ +
    (next (outcomes.environment item count).1).tally weight
      outcomes.environment (outcomes.environment item count).2 = _
  rw [answered]

/-- Stopping and returning a status. -/
theorem run_stopHw_bind (result : Int) :
    (do stopHw; return result : Probe Int).run outcomes.environment count =
      (result, count) :=
  rfl

theorem tally_stopHw_bind (result : Int) :
    (do stopHw; return result : Probe Int).tally weight outcomes.environment
        count =
      weight ⟨.hidHwPower false, (0 : Int)⟩ +
        (weight ⟨.hidHwClose, ()⟩ + weight ⟨.hidHwStop, ()⟩) :=
  rfl

/-- At every failure of `start_hw` a device that is not open is closed. -/
theorem startHw_fails
    (fails : ¬ (outcomes.start = 0 ∧ outcomes.opening = 0)) :
    ∃ result ≠ 0,
      startHw.run outcomes.environment 0 = (result, 0) ∧
      outcomes.count closes startHw = 1 ∧
      outcomes.count opens startHw = 0 := by
  by_cases start : outcomes.start = 0
  · have opening : outcomes.opening ≠ 0 := fun zero => fails ⟨start, zero⟩
    have started : outcomes.environment .hidHwStart 0 = (0, 0) :=
      congrArg (·, 0) start
    have counted : ∀ weight : ProbeWeight,
        outcomes.count weight startHw =
          weight ⟨.hidHwStart, (0 : Int)⟩ +
            (weight ⟨.hidHwPower true, (0 : Int)⟩ +
              (weight ⟨.hidHwOpen, outcomes.opening⟩ +
                (weight ⟨.hidHwPower false, (0 : Int)⟩ +
                  (weight ⟨.hidHwClose, ()⟩ + weight ⟨.hidHwStop, ()⟩)))) := by
      intro weight
      rw [Outcomes.count, startHw, tally_ask_bind .hidHwStart 0 started,
        if_neg (fun nonzero => nonzero rfl),
        tally_ask_bind (.hidHwPower true) 0 rfl,
        tally_ask_bind .hidHwOpen outcomes.opening rfl, if_pos opening,
        tally_stopHw_bind]
    have notOpen : succeeded outcomes.opening = 0 := if_neg opening
    refine ⟨outcomes.opening, opening, ?_, counted closes, ?_⟩
    · rw [startHw, run_ask_bind .hidHwStart 0 started,
        if_neg (fun nonzero => nonzero rfl),
        run_ask_bind (.hidHwPower true) 0 rfl,
        run_ask_bind .hidHwOpen outcomes.opening rfl, if_pos opening,
        run_stopHw_bind]
    · rw [counted opens]
      simp [opens, notOpen]
  · have counted : ∀ weight : ProbeWeight,
        outcomes.count weight startHw =
          weight ⟨.hidHwStart, outcomes.start⟩ +
            (weight ⟨.hidHwPower false, (0 : Int)⟩ +
              (weight ⟨.hidHwClose, ()⟩ + weight ⟨.hidHwStop, ()⟩)) := by
      intro weight
      rw [Outcomes.count, startHw,
        tally_ask_bind .hidHwStart outcomes.start rfl, if_pos start,
        tally_stopHw_bind]
    refine ⟨outcomes.start, start, ?_, counted closes, counted opens⟩
    rw [startHw, run_ask_bind .hidHwStart outcomes.start rfl,
      if_pos start, run_stopHw_bind]

theorem run_startHw (start : outcomes.start = 0)
    (opening : outcomes.opening = 0) :
    startHw.run outcomes.environment 0 = (0, 0) := by
  have started : outcomes.environment .hidHwStart 0 = (0, 0) :=
    congrArg (·, 0) start
  have opened : outcomes.environment .hidHwOpen 0 = (0, 0) :=
    congrArg (·, 0) opening
  rw [startHw, run_ask_bind .hidHwStart 0 started,
    if_neg (fun nonzero => nonzero rfl),
    run_ask_bind (.hidHwPower true) 0 rfl,
    run_ask_bind .hidHwOpen 0 opened,
    if_neg (fun nonzero => nonzero rfl), Program.run_pure]

theorem count_startHw (start : outcomes.start = 0)
    (opening : outcomes.opening = 0) (weight : ProbeWeight) :
    outcomes.count weight startHw =
      weight ⟨.hidHwStart, (0 : Int)⟩ +
        (weight ⟨.hidHwPower true, (0 : Int)⟩ +
          weight ⟨.hidHwOpen, (0 : Int)⟩) := by
  have started : outcomes.environment .hidHwStart 0 = (0, 0) :=
    congrArg (·, 0) start
  have opened : outcomes.environment .hidHwOpen 0 = (0, 0) :=
    congrArg (·, 0) opening
  rw [Outcomes.count, startHw, tally_ask_bind .hidHwStart 0 started,
    if_neg (fun nonzero => nonzero rfl),
    tally_ask_bind (.hidHwPower true) 0 rfl,
    tally_ask_bind .hidHwOpen 0 opened,
    if_neg (fun nonzero => nonzero rfl), Program.tally_pure, Nat.add_zero]

/-! ## The steps all probes begin with -/

/-- These steps succeed. -/
structure Starts (outcomes : Outcomes) : Prop where
  parse : outcomes.parse = 0
  start : outcomes.start = 0
  opening : outcomes.opening = 0
  allocated : outcomes.allocated .driverData = true

variable {rest : Probe Int}

/-- Parsed, and started with this result. -/
theorem result_startedProbe (parse : outcomes.parse = 0) {result : Int}
    (started : startHw.run outcomes.environment 0 = (result, 0)) :
    outcomes.result (startedProbe rest) =
      if result ≠ 0 then result
      else if outcomes.allocated .driverData = false then -enomem
      else outcomes.result rest := by
  have parsed : outcomes.environment .hidParse 0 = (0, 0) :=
    congrArg (·, 0) parse
  rw [Outcomes.result, startedProbe, run_ask_bind .hidParse 0 parsed,
    if_neg (fun nonzero => nonzero rfl), Program.run_bind, started,
    Program.run_ite,
    run_ask_bind (.devmKzalloc .driverData) (outcomes.allocated .driverData)
      rfl, Program.run_ite]
  split
  · rfl
  · split
    · rfl
    · rfl

theorem count_startedProbe (parse : outcomes.parse = 0) {result : Int}
    (started : startHw.run outcomes.environment 0 = (result, 0))
    (unparsed : weight ⟨.hidParse, (0 : Int)⟩ = 0)
    (unallocated : ∀ answer, weight ⟨.devmKzalloc .driverData, answer⟩ = 0) :
    outcomes.count weight (startedProbe rest) =
      outcomes.count weight startHw +
        if result ≠ 0 then 0
        else if outcomes.allocated .driverData = false then 0
        else outcomes.count weight rest := by
  have parsed : outcomes.environment .hidParse 0 = (0, 0) :=
    congrArg (·, 0) parse
  rw [Outcomes.count, startedProbe, tally_ask_bind .hidParse 0 parsed,
    if_neg (fun nonzero => nonzero rfl), unparsed, Nat.zero_add,
    Program.tally_bind, started, Program.tally_ite,
    tally_ask_bind (.devmKzalloc .driverData) (outcomes.allocated .driverData)
      rfl, unallocated, Nat.zero_add, Program.tally_ite]
  rfl

/-- At every failure of these steps the closes do not agree with the opens. -/
theorem startedProbe_fails (rest : Probe Int)
    (fails : ¬ Starts outcomes) :
    outcomes.result (startedProbe rest) ≠ 0 ∧
      outcomes.count closes (startedProbe rest) ≠
        outcomes.count opens (startedProbe rest) := by
  by_cases parse : outcomes.parse = 0
  · by_cases device : outcomes.start = 0 ∧ outcomes.opening = 0
    · have started := run_startHw device.1 device.2
      have notAllocated : outcomes.allocated .driverData = false := by
        rw [← Bool.not_eq_true]
        exact fun allocated =>
          fails ⟨parse, device.1, device.2, allocated⟩
      rw [result_startedProbe parse started,
        count_startedProbe parse started rfl fun _ => rfl,
        count_startedProbe parse started rfl fun _ => rfl, notAllocated,
        count_startHw device.1 device.2, count_startHw device.1 device.2]
      have error : -enomem ≠ 0 := by decide
      exact ⟨error, Nat.zero_ne_one⟩
    · obtain ⟨result, nonzero, started, closed, opened⟩ :=
        startHw_fails device
      rw [result_startedProbe parse started,
        count_startedProbe parse started rfl fun _ => rfl,
        count_startedProbe parse started rfl fun _ => rfl, if_pos nonzero,
        if_pos nonzero, if_pos nonzero, closed, opened]
      exact ⟨nonzero, Nat.one_ne_zero⟩
  · rw [Outcomes.result, Outcomes.count, Outcomes.count, startedProbe,
      run_ask_bind .hidParse outcomes.parse rfl,
      tally_ask_bind .hidParse outcomes.parse rfl,
      tally_ask_bind .hidParse outcomes.parse rfl, if_pos parse,
      run_stopHw_bind, tally_stopHw_bind, tally_stopHw_bind]
    exact ⟨parse, Nat.one_ne_zero⟩

/-- Where these steps succeed the rest of the probe finds the device started
and opened. -/
theorem leavesStopped_startedProbe_iff :
    LeavesStopped outcomes (startedProbe rest) ↔
      Starts outcomes ∧ Releases outcomes rest := by
  by_cases succeeds : Starts outcomes
  · have started := run_startHw succeeds.start succeeds.opening
    have counted : ∀ weight : ProbeWeight,
        weight ⟨.hidParse, (0 : Int)⟩ = 0 →
        (∀ answer, weight ⟨.devmKzalloc .driverData, answer⟩ = 0) →
        outcomes.count weight (startedProbe rest) =
          weight ⟨.hidHwStart, (0 : Int)⟩ +
            (weight ⟨.hidHwPower true, (0 : Int)⟩ +
              weight ⟨.hidHwOpen, (0 : Int)⟩) +
            outcomes.count weight rest := by
      intro weight unparsed unallocated
      rw [count_startedProbe succeeds.parse started unparsed unallocated,
        count_startHw succeeds.start succeeds.opening, succeeds.allocated]
      rfl
    have result : outcomes.result (startedProbe rest) =
        outcomes.result rest := by
      rw [result_startedProbe succeeds.parse started, succeeds.allocated]
      rfl
    have sameCloses :
        outcomes.count closes (startedProbe rest) =
            outcomes.count opens (startedProbe rest) ↔
          outcomes.count closes rest = outcomes.count opens rest + 1 := by
      rw [counted closes rfl fun _ => rfl, counted opens rfl fun _ => rfl]
      simp [closes, opens, succeeded, Nat.add_comm]
    have sameStops :
        outcomes.count stops (startedProbe rest) =
            outcomes.count starts (startedProbe rest) ↔
          outcomes.count stops rest = outcomes.count starts rest + 1 := by
      rw [counted stops rfl fun _ => rfl, counted starts rfl fun _ => rfl]
      simp [stops, starts, succeeded, Nat.add_comm]
    have sameLeds : ∀ led,
        outcomes.count (classUnregistrations led) (startedProbe rest) =
            outcomes.count (classRegistrations led) (startedProbe rest) ↔
          outcomes.count (classUnregistrations led) rest =
            outcomes.count (classRegistrations led) rest := by
      intro led
      rw [counted (classUnregistrations led) rfl fun _ => rfl,
        counted (classRegistrations led) rfl fun _ => rfl]
      simp [classUnregistrations, classRegistrations]
    rw [LeavesStopped, Releases, result, sameCloses, sameStops,
      forall_congr' sameLeds]
    exact (and_iff_right succeeds).symm
  · apply iff_of_false
    · intro leaves
      have failed := startedProbe_fails rest succeeds
      exact failed.2 (leaves failed.1).1
    · exact fun released => succeeds released.1

end Steps

/-! ## The rests of the probes -/

section Rests

variable {outcomes : Outcomes}

/-- A rest of a probe that closes nothing must not fail. -/
theorem releases_iff_of_not_closed {rest : Probe Int}
    (notClosed : outcomes.count closes rest = 0) :
    Releases outcomes rest ↔ outcomes.result rest = 0 := by
  constructor
  · intro releases
    by_contra fails
    have closed := (releases fails).1
    rw [notClosed] at closed
    exact Nat.succ_ne_zero _ closed.symm
  · intro succeeds fails
    exact absurd succeeds fails

namespace Ite8291

theorem leavesDevice_registerPositions (positions : List LedPosition) :
    LeavesDevice (registerPositions positions) := by
  induction positions with
  | nil =>
      trivial
  | cons position rest inductionHypothesis =>
      have undone : ∀ i j, LeavesDevice (undoLeds i j) := by
        intro i j
        apply Program.Asks.forM
        intro _ _
        apply Program.Asks.forM
        intro _ _
        exact ⟨rfl, fun _ => trivial⟩
      refine ⟨rfl, fun res => ?_⟩
      apply Program.Asks.ite
      · intro _
        exact (undone position.1 position.2).bind fun _ => trivial
      · intro _
        exact inductionHypothesis

theorem leavesDevice_ite8291PerkeyAdd : LeavesDevice ite8291PerkeyAdd := by
  refine ⟨rfl, fun perkeyData => ?_⟩
  apply Program.Asks.ite
  · intro _
    trivial
  · intro _
    apply Program.Asks.bind
    · rw [registerLeds_eq]
      exact leavesDevice_registerPositions ledPositions
    · intro result
      exact Program.Asks.ite (fun _ => trivial) fun _ => trivial

theorem leavesDevice_registerZones (zones : List (Fin ite8291NrZones)) :
    LeavesDevice (registerZones zones) := by
  induction zones with
  | nil =>
      trivial
  | cons i rest inductionHypothesis =>
      refine ⟨rfl, fun result => ?_⟩
      apply Program.Asks.ite
      · intro _
        apply Program.Asks.bind
        · exact Program.Asks.forM fun _ _ => ⟨rfl, fun _ => trivial⟩
        · exact fun _ => trivial
      · intro _
        exact inductionHypothesis

theorem leavesDevice_deviceAdd (device : Ite8291Device) :
    LeavesDevice (ite8291DriverDataSetup device).deviceAdd := by
  rw [ite8291DriverDataSetup]
  split
  · refine ⟨rfl, fun zonesData => ?_⟩
    exact
      Program.Asks.ite (fun _ => trivial) fun _ =>
        leavesDevice_registerZones _
  · exact leavesDevice_ite8291PerkeyAdd

/-- Once the device was added the probe can only fail through the exit that
stops it. -/
theorem tally_finishProbe (functions : DeviceFunctions) (count : Nat)
    (fails : ((finishProbe functions).run outcomes.environment count).1 ≠ 0)
    {weight : ProbeWeight} (isDevice : DeviceWeight weight) :
    (finishProbe functions).tally weight outcomes.environment count =
      weight ⟨.hidHwClose, ()⟩ + weight ⟨.hidHwStop, ()⟩ := by
  rw [finishProbe, Program.run_bind, Program.run_bind] at fails
  rw [finishProbe, Program.tally_bind,
    (leavesDevice_transferring _).tally_eq_zero isDevice, Nat.zero_add,
    Program.tally_bind,
    (leavesDevice_transferring _).tally_eq_zero isDevice, Nat.zero_add]
  by_cases control : functions.deviceHasBufferInputControl = true
  · rw [if_pos control] at fails ⊢
    rw [createControlGroup,
      run_ask_bind .sysfsCreateGroup outcomes.group rfl] at fails
    rw [createControlGroup,
      tally_ask_bind .sysfsCreateGroup outcomes.group rfl,
      isDevice.eq_zero ⟨.sysfsCreateGroup, outcomes.group⟩ rfl, Nat.zero_add]
    by_cases group : outcomes.group = 0
    · rw [if_neg (fun nonzero => nonzero group)] at fails
      exact absurd rfl fails
    · rw [if_pos group, tally_stopHw_bind,
        isDevice.eq_zero ⟨.hidHwPower false, (0 : Int)⟩ rfl, Nat.zero_add]
  · rw [if_neg control] at fails
    exact absurd rfl fails

/-- So the probe has to add the device. -/
theorem releases_addDevice_iff {functions : DeviceFunctions}
    (leaves : LeavesDevice functions.deviceAdd) :
    Releases outcomes (addDevice functions) ↔
      outcomes.result functions.deviceAdd = 0 := by
  have added : functions.deviceAdd.run outcomes.environment 0 =
      (outcomes.result functions.deviceAdd,
        (functions.deviceAdd.run outcomes.environment 0).2) := rfl
  by_cases succeeds : outcomes.result functions.deviceAdd = 0
  · apply iff_of_true _ succeeds
    intro fails
    have counted : ∀ weight, DeviceWeight weight →
        outcomes.count weight (addDevice functions) =
          weight ⟨.hidHwClose, ()⟩ + weight ⟨.hidHwStop, ()⟩ := by
      intro weight isDevice
      rw [Outcomes.result, addDevice, Program.run_bind, added, succeeds,
        if_neg (fun nonzero => nonzero rfl)] at fails
      rw [Outcomes.count, addDevice, Program.tally_bind, added, succeeds,
        if_neg (fun nonzero => nonzero rfl),
        leaves.tally_eq_zero isDevice, Nat.zero_add,
        tally_finishProbe functions _ fails isDevice]
    refine ⟨?_, ?_, fun led => ?_⟩
    · rw [counted closes .closes, counted opens .opens]
      rfl
    · rw [counted stops .stops, counted starts .starts]
      rfl
    · rw [counted _ (.classUnregistrations led),
        counted _ (.classRegistrations led)]
      rfl
  · have notClosed : outcomes.count closes (addDevice functions) = 0 := by
      rw [Outcomes.count, addDevice, Program.tally_bind, added,
        if_pos succeeds, leaves.tally_eq_zero .closes]
      rfl
    have failed : outcomes.result (addDevice functions) =
        outcomes.result functions.deviceAdd := by
      rw [Outcomes.result, addDevice, Program.run_bind, added,
        if_pos succeeds]
      rfl
    rw [releases_iff_of_not_closed notClosed, failed]

/-- The LEDs of the device and its memory. -/
def DeviceAdded (outcomes : Outcomes) (device : Ite8291Device) : Prop :=
  outcomes.allocated .deviceData = true ∧
    if hasZones device = true then
      ∀ index, outcomes.registered (.zone index) = 0
    else
      ∀ row column, outcomes.registered (.perkey row column) = 0

/-- One round of the loops that register LEDs. -/
theorem result_registerRound_eq_zero_iff (led : McLedId) (undo : Probe Unit)
    (rest : Probe Int) :
    outcomes.result (do
        let result ← ask (.devmLedRegister led)
        if result ≠ 0 then do
          undo
          return result
        else rest) = 0 ↔
      outcomes.registered led = 0 ∧ outcomes.result rest = 0 := by
  rw [Outcomes.result, run_ask_bind (.devmLedRegister led)
    (outcomes.registered led) rfl]
  by_cases registered : outcomes.registered led = 0
  · rw [if_neg (fun nonzero => nonzero registered),
      and_iff_right registered]
    rfl
  · rw [if_pos registered, Program.run_bind]
    exact iff_of_false registered fun both => registered both.1

theorem result_registerPositions_eq_zero_iff (positions : List LedPosition) :
    outcomes.result (registerPositions positions) = 0 ↔
      ∀ position ∈ positions,
        outcomes.registered (.perkey position.1 position.2) = 0 := by
  induction positions with
  | nil =>
      exact iff_of_true rfl nofun
  | cons position rest inductionHypothesis =>
      rw [List.forall_mem_cons, ← inductionHypothesis]
      exact result_registerRound_eq_zero_iff _ _ _

theorem result_registerZones_eq_zero_iff (zones : List (Fin ite8291NrZones)) :
    outcomes.result (registerZones zones) = 0 ↔
      ∀ index ∈ zones, outcomes.registered (.zone index) = 0 := by
  induction zones with
  | nil =>
      exact iff_of_true rfl nofun
  | cons i rest inductionHypothesis =>
      rw [List.forall_mem_cons, ← inductionHypothesis]
      exact result_registerRound_eq_zero_iff _ _ _

/-- The memory of the device is allocated first. -/
theorem result_allocated_eq_zero_iff (rest : Probe Int) :
    outcomes.result (do
        let data ← ask (.devmKzalloc .deviceData)
        if data = false then return -enomem else rest) = 0 ↔
      outcomes.allocated .deviceData = true ∧ outcomes.result rest = 0 := by
  rw [Outcomes.result, run_ask_bind (.devmKzalloc .deviceData)
    (outcomes.allocated .deviceData) rfl]
  cases outcomes.allocated .deviceData with
  | false =>
      have error : -enomem ≠ 0 := by decide
      exact iff_of_false error fun both => Bool.false_ne_true both.1
  | true =>
      exact (and_iff_right rfl).symm

theorem result_deviceAdd_eq_zero_iff (device : Ite8291Device) :
    outcomes.result (ite8291DriverDataSetup device).deviceAdd = 0 ↔
      DeviceAdded outcomes device := by
  rw [ite8291DriverDataSetup, DeviceAdded]
  by_cases zones : hasZones device = true
  · rw [if_pos zones, if_pos zones]
    apply (result_allocated_eq_zero_iff _).trans
    rw [result_registerZones_eq_zero_iff]
    simp
  · rw [if_neg zones, if_neg zones]
    apply (result_allocated_eq_zero_iff _).trans
    have checked : outcomes.result (do
        let result ← registerLeds
        if result ≠ 0 then return result else return 0) =
          outcomes.result registerLeds := by
      rw [Outcomes.result, Program.run_bind, Program.run_ite]
      split
      · rfl
      · rename_i zero
        exact (not_not.mp zero).symm
    rw [checked, registerLeds_eq, result_registerPositions_eq_zero_iff]
    have everyPosition : (∀ position ∈ ledPositions,
        outcomes.registered (.perkey position.1 position.2) = 0) ↔
          ∀ row column, outcomes.registered (.perkey row column) = 0 :=
      ⟨fun all row column => all (row, column) (mem_ledPositions _),
        fun all position _ => all position.1 position.2⟩
    rw [everyPosition]

end Ite8291

/-! ## Lightbars -/

namespace Ite8291Lb

/-- The colour list is allocated if there is one, and the LED registered. -/
def LightbarAdded (outcomes : Outcomes) (device : LightbarDevice) : Prop :=
  (colorListLength device ≠ 0 → outcomes.allocated .colorList = true) ∧
    outcomes.registered .lightbar = 0

theorem leavesDevice_initLightbar (device : LightbarDevice) :
    LeavesDevice (initLightbar device) := by
  have initialised : LeavesDevice ite8291InitLeds :=
    ⟨rfl, fun _ => Program.Asks.ite (fun _ => trivial) fun _ => trivial⟩
  apply initialised.bind
  intro result
  apply Program.Asks.ite
  · exact fun _ => trivial
  · intro _
    apply (leavesDevice_transferring _).bind
    intro _
    apply (leavesDevice_transferring _).bind
    exact fun _ => trivial

theorem leavesDevice_addLightbar (device : LightbarDevice) :
    LeavesDevice (addLightbar device) := by
  have setUp : LeavesDevice (ite8291DriverDataSetup device) := by
    apply Program.Asks.ite
    · intro _
      exact
        ⟨rfl, fun _ => Program.Asks.ite (fun _ => trivial) fun _ => trivial⟩
    · exact fun _ => trivial
  apply setUp.bind
  intro result
  apply Program.Asks.ite
  · exact fun _ => trivial
  · exact fun _ => leavesDevice_initLightbar device

/-- What the setup of the driver data returns. -/
theorem run_ite8291DriverDataSetup (device : LightbarDevice) :
    (ite8291DriverDataSetup device).run outcomes.environment 0 =
      (if colorListLength device ≠ 0 ∧
          outcomes.allocated .colorList = false then -enomem else 0, 0) := by
  rw [ite8291DriverDataSetup]
  by_cases list : colorListLength device ≠ 0
  · rw [if_pos list, run_ask_bind (.devmKzalloc .colorList)
      (outcomes.allocated .colorList) rfl]
    cases outcomes.allocated .colorList with
    | false =>
        rw [if_pos rfl, if_pos ⟨list, rfl⟩]
        rfl
    | true =>
        rw [if_neg (by decide), if_neg (by simp)]
        rfl
  · rw [if_neg list, if_neg fun both => list both.1]
    rfl

theorem result_initLightbar (device : LightbarDevice) :
    outcomes.result (initLightbar device) = outcomes.registered .lightbar := by
  have initialised : ite8291InitLeds.run outcomes.environment 0 =
      (outcomes.registered .lightbar, 0) := by
    rw [ite8291InitLeds, run_ask_bind (.devmLedRegister .lightbar)
      (outcomes.registered .lightbar) rfl]
    by_cases registered : outcomes.registered .lightbar = 0
    · rw [if_neg (fun nonzero => nonzero registered), registered]
      rfl
    · rw [if_pos registered]
      rfl
  rw [Outcomes.result, initLightbar, Program.run_bind, initialised,
    Program.run_ite]
  split
  · rfl
  · rw [Program.run_bind, Program.run_bind]
    rfl

/-- Every failure leaves the device as it is. -/
theorem releases_addLightbar_iff (device : LightbarDevice) :
    Releases outcomes (addLightbar device) ↔
      LightbarAdded outcomes device := by
  have notClosed : outcomes.count closes (addLightbar device) = 0 :=
    (leavesDevice_addLightbar device).tally_eq_zero .closes outcomes 0
  rw [releases_iff_of_not_closed notClosed, Outcomes.result, addLightbar,
    Program.run_bind, run_ite8291DriverDataSetup, LightbarAdded]
  by_cases list : colorListLength device ≠ 0 ∧
      outcomes.allocated .colorList = false
  · have error : -enomem ≠ 0 := by decide
    rw [if_pos list, if_pos error]
    apply iff_of_false error
    intro added
    rw [list.2] at added
    exact Bool.false_ne_true (added.1 list.1)
  · rw [if_neg list, if_neg (fun nonzero => nonzero rfl)]
    have result : ((initLightbar device).run outcomes.environment 0).1 =
        outcomes.registered .lightbar := result_initLightbar device
    rw [result]
    have allocated : colorListLength device ≠ 0 →
        outcomes.allocated .colorList = true := by
      intro nonzero
      rw [← Bool.not_eq_false]
      exact fun unallocated => list ⟨nonzero, unallocated⟩
    exact (and_iff_right allocated).symm

end Ite8291Lb

namespace Ite8297

/-- A failed write of the state leaves the device as it is. -/
theorem releases_addLeds_iff :
    Releases outcomes addLeds ↔ 0 ≤ outcomes.transferred 0 := by
  have asks : addLeds.Asks fun item : ProbeRequest =>
      item ≠ .hidHwClose := by
    refine ⟨nofun, fun _ => ⟨nofun, fun _ => ⟨nofun, fun _ => ⟨nofun, ?_⟩⟩⟩⟩
    exact fun _ => Program.Asks.ite (fun _ => trivial) fun _ => trivial
  have notClosed : outcomes.count closes addLeds = 0 := by
    apply asks.tally_eq_zero
    rintro ⟨item, answer⟩ different
    cases item <;> first | rfl | exact absurd rfl different
  have written : (transferring (ite8297WriteState defaultColor)).run
      outcomes.environment 0 = (outcomes.transferred 0, 1) := rfl
  have result : outcomes.result addLeds =
      if outcomes.transferred 0 < 0 then outcomes.transferred 0 else 0 := by
    rw [Outcomes.result, addLeds,
      run_ask_bind (.ledClassdevRegister .red)
        (outcomes.classRegistered .red) rfl,
      run_ask_bind (.ledClassdevRegister .green)
        (outcomes.classRegistered .green) rfl,
      run_ask_bind (.ledClassdevRegister .blue)
        (outcomes.classRegistered .blue) rfl,
      Program.run_bind, written, Program.run_ite]
    split <;> rfl
  rw [releases_iff_of_not_closed notClosed, result]
  split <;> omega

end Ite8297

end Rests

/-! ## The three drivers -/

inductive IteDriver where
  | ite8291 (device : Ite8291Device)
  | ite8291Lb (device : Ite8291Lb.LightbarDevice)
  | ite8297

namespace IteDriver

def driverProbeCallb : IteDriver → Probe Int
  | .ite8291 device => Ite8291.driverProbeCallb device
  | .ite8291Lb device => Ite8291Lb.driverProbeCallb device
  | .ite8297 => Ite8297.driverProbeCallb

/-- The driver does not bind to the device. -/
def excludes : IteDriver → Bool
  | .ite8291 device => Ite8291.excluded device
  | .ite8291Lb device => Ite8291Lb.excludeDevice device
  | .ite8297 => false

/-- The steps whose failure the driver does not clean up after succeed. -/
def StepsSucceed (outcomes : Outcomes) : IteDriver → Prop
  | .ite8291 device => Starts outcomes ∧ Ite8291.DeviceAdded outcomes device
  | .ite8291Lb device =>
      Starts outcomes ∧ Ite8291Lb.LightbarAdded outcomes device
  | .ite8297 => Starts outcomes ∧ 0 ≤ outcomes.transferred 0

end IteDriver

theorem leavesStopped_excluded (outcomes : Outcomes) (error : Int) :
    LeavesStopped outcomes (pure error) :=
  fun _ => ⟨rfl, rfl, fun _ => rfl⟩

/-- A failed probe leaves the device stopped only if it was excluded from the
start, or if what failed is the attribute group of `ite_8291`. -/
theorem leavesStopped_iff (outcomes : Outcomes) (driver : IteDriver) :
    LeavesStopped outcomes driver.driverProbeCallb ↔
      driver.excludes = true ∨ driver.StepsSucceed outcomes := by
  cases driver with
  | ite8291 device =>
      rw [IteDriver.driverProbeCallb, Ite8291.driverProbeCallb,
        IteDriver.excludes, IteDriver.StepsSucceed]
      by_cases excluded : Ite8291.excluded device = true
      · rw [if_pos excluded]
        exact iff_of_true (leavesStopped_excluded _ _) (Or.inl excluded)
      · rw [if_neg excluded, leavesStopped_startedProbe_iff,
          Ite8291.releases_addDevice_iff
            (Ite8291.leavesDevice_deviceAdd device),
          Ite8291.result_deviceAdd_eq_zero_iff, or_iff_right excluded]
  | ite8291Lb device =>
      rw [IteDriver.driverProbeCallb, Ite8291Lb.driverProbeCallb,
        IteDriver.excludes, IteDriver.StepsSucceed]
      by_cases excluded : Ite8291Lb.excludeDevice device = true
      · rw [if_pos excluded]
        exact iff_of_true (leavesStopped_excluded _ _) (Or.inl excluded)
      · rw [if_neg excluded, leavesStopped_startedProbe_iff,
          Ite8291Lb.releases_addLightbar_iff, or_iff_right excluded]
  | ite8297 =>
      rw [IteDriver.driverProbeCallb, Ite8297.driverProbeCallb,
        leavesStopped_startedProbe_iff, Ite8297.releases_addLeds_iff,
        IteDriver.excludes, IteDriver.StepsSucceed,
        or_iff_right Bool.false_ne_true]

/-- All steps of a probe succeed but for the one that parses. -/
def parseFails : Outcomes where
  parse := -einval
  start := 0
  opening := 0
  allocated := fun _ => true
  registered := fun _ => 0
  classRegistered := fun _ => 0
  group := 0
  transferred := fun _ => 8

/-- All steps succeed but for the write of the state. -/
def stateWriteFails : Outcomes where
  parse := 0
  start := 0
  opening := 0
  allocated := fun _ => true
  registered := fun _ => 0
  classRegistered := fun _ => 0
  group := 0
  transferred := fun _ => -eio

/-- A device that was never opened is closed, and one that was opened with its
LEDs registered is left so. -/
theorem failed_probes_leave_the_device_wrong :
    ¬ LeavesStopped parseFails IteDriver.ite8297.driverProbeCallb ∧
      ¬ LeavesStopped stateWriteFails IteDriver.ite8297.driverProbeCallb ∧
      parseFails.count closes IteDriver.ite8297.driverProbeCallb = 1 ∧
      stateWriteFails.count closes IteDriver.ite8297.driverProbeCallb = 0 ∧
      stateWriteFails.count (classUnregistrations .red)
        IteDriver.ite8297.driverProbeCallb = 0 := by
  refine ⟨fun stopped => ?_, fun stopped => ?_, by decide, by decide,
    by decide⟩
  · exact absurd (stopped (by decide)).1 (by decide)
  · exact absurd (stopped (by decide)).1 (by decide)

end TuxedoDrivers.Ite
