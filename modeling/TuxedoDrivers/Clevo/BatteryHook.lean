import TuxedoDrivers.Clevo.Flexicharger
import TuxedoDrivers.Interaction.Registry
import TuxedoDrivers.Interaction.Runs

/-!
# The battery hook of the flexicharger

`clevo_flexicharger_init` registers a hook that the kernel calls for every
battery, and unregisters itself when a call fails.  Whether
`clevo_flexicharger_remove` unregisters it depends on a variable that only
records that some call has succeeded since the module was loaded.
-/

namespace TuxedoDrivers.Clevo

open Interaction

/-! ## Batteries -/

/-- What the hook meets: the active interface and its firmware, what an
uninitialised variable holds, and the groups of a battery device. -/
structure BatteryKernel (σ : Type) where
  activeClevoInterface : σ → Option ClevoInterface
  firmware : Firmware σ
  uninitialised : σ → Bool
  deviceAddGroups : Nat → σ → Int × σ
  deviceRemoveGroups : Nat → σ → σ

/-- What happened to the hook, the latest first. -/
inductive HookEvent where
  | registered
  | added (result : Int)
  deriving DecidableEq, Repr

/-- The batteries that are present, the driver and its hook. -/
structure BatteryWorld (σ : Type) where
  kernel : σ
  batteries : List Nat := []
  bound : Bool := false
  chargeControlRegistered : Bool := false
  batteryHook : Registry Unit := .empty
  history : List HookEvent := []

section Hook

variable {σ : Type} (kernel : BatteryKernel σ) (dmi : Dmi)

/-- The result, `charge_control_registered` and the kernel afterwards.  The
results of both detections are ignored. -/
def clevoBatteryAdd (battery : Nat) (chargeControlRegistered : Bool)
    (state : σ) : Int × Bool × σ :=
  let activeClevoInterface := kernel.activeClevoInterface state
  let legacy :=
    (clevoHasLegacyFlexicharger activeClevoInterface dmi).run
      kernel.firmware state
  let cc4 :=
    (clevoHasCc4Flexicharger activeClevoInterface).run
      kernel.firmware legacy.2
  let hasLegacyFlexicharger :=
    legacy.1.2.getD (kernel.uninitialised state)
  if hasLegacyFlexicharger = false ∧ cc4.1 = false then
    (-enodev, chargeControlRegistered, cc4.2)
  else
    let added := kernel.deviceAddGroups battery cc4.2
    if added.1 ≠ 0 then (-enodev, chargeControlRegistered, added.2)
    else (0, true, added.2)

def clevoBatteryRemove (battery : Nat) (state : σ) : Int × σ :=
  (0, kernel.deviceRemoveGroups battery state)

/-! ## The kernel's part -/

/-- The hook leaves every battery. -/
def removeBatteries (batteries : List Nat) (state : σ) : σ :=
  batteries.foldl
    (fun reached battery => (clevoBatteryRemove kernel battery reached).2)
    state

/-- The kernel calls the hook for a battery, and unregisters it if that
fails. -/
def addBattery (battery : Nat) (world : BatteryWorld σ) : BatteryWorld σ :=
  let added :=
    clevoBatteryAdd kernel dmi battery world.chargeControlRegistered
      world.kernel
  let called : BatteryWorld σ :=
    { world with
      kernel := added.2.2
      chargeControlRegistered := added.2.1
      history := .added added.1 :: world.history }
  if added.1 = 0 then
    called
  else
    { called with
      kernel := removeBatteries kernel world.batteries called.kernel
      batteryHook := called.batteryHook.lose () }

/-- The first battery for which the hook fails is the last that it is called
for. -/
def addBatteries : List Nat → BatteryWorld σ → BatteryWorld σ
  | [], world => world
  | battery :: rest, world =>
      let added := addBattery kernel dmi battery world
      if added.batteryHook.registered () = true then addBatteries rest added
      else added

def batteryHookRegister (world : BatteryWorld σ) : BatteryWorld σ :=
  addBatteries kernel dmi world.batteries
    { world with
      batteryHook := world.batteryHook.register ()
      history := .registered :: world.history }

def batteryHookUnregister (world : BatteryWorld σ) : BatteryWorld σ :=
  { world with
    kernel := removeBatteries kernel world.batteries world.kernel
    batteryHook := world.batteryHook.unregister () }

/-! ## The driver's part -/

def clevoFlexichargerInit (world : BatteryWorld σ) : BatteryWorld σ :=
  batteryHookRegister kernel dmi world

def clevoFlexichargerRemove (world : BatteryWorld σ) : BatteryWorld σ :=
  if world.chargeControlRegistered = true then
    batteryHookUnregister kernel world
  else world

/-! ## Steps -/

inductive BatteryStep where
  | probe
  | remove
  | batteryAppears (battery : Nat)
  | batteryDisappears (battery : Nat)
  deriving DecidableEq, Repr

/-- A driver that is bound is not probed again, and one that is not bound is
not removed. -/
def batteryStep : BatteryStep → BatteryWorld σ → BatteryWorld σ
  | .probe, world =>
      if world.bound = true then world
      else { clevoFlexichargerInit kernel dmi world with bound := true }
  | .remove, world =>
      if world.bound = true then
        { clevoFlexichargerRemove kernel world with bound := false }
      else world
  | .batteryAppears battery, world =>
      let present : BatteryWorld σ :=
        { world with batteries := battery :: world.batteries }
      if present.batteryHook.registered () = true then
        addBattery kernel dmi battery present
      else present
  | .batteryDisappears battery, world =>
      let left : BatteryWorld σ :=
        { world with batteries := world.batteries.erase battery }
      if left.batteryHook.registered () = true then
        { left with
          kernel := (clevoBatteryRemove kernel battery world.kernel).2 }
      else left

end Hook

/-! ## The contract and the history -/

/-- No hook is left behind by a driver that is not bound, and none that is
not registered has been unregistered. -/
structure HookContract {σ : Type} (world : BatteryWorld σ) : Prop where
  notLeft : world.bound = false → world.batteryHook.registered () = false
  notStale : world.batteryHook.stale = false

/-- The hook was called with success since the module was loaded. -/
def someAdded (history : List HookEvent) : Bool :=
  history.any fun event => event == .added 0

theorem someAdded_cons_added (result : Int) (history : List HookEvent) :
    someAdded (.added result :: history) =
      (decide (result = 0) || someAdded history) := by
  have same :
      (HookEvent.added result == .added 0) = decide (result = 0) := by
    by_cases zero : result = 0
    · rw [zero]
      rfl
    · simp [zero]
  rw [someAdded, List.any_cons, same, ← someAdded]

/-- A call has failed since the hook was registered last. -/
def failedSinceRegistered : List HookEvent → Bool
  | [] => false
  | .registered :: _ => false
  | .added result :: earlier =>
      decide (result ≠ 0) || failedSinceRegistered earlier

/-- The driver is removed after a call with success exactly if no call has
failed since the probe. -/
def HookCondition {σ : Type} : BatteryStep → BatteryWorld σ → Prop
  | .remove, world =>
      world.bound = true →
        (someAdded world.history = true ↔
          failedSinceRegistered world.history = false)
  | _, _ => True

/-! ## One call of the hook -/

/-- The variable and the hook follow the history. -/
structure FollowsHistory {σ : Type} (world : BatteryWorld σ) : Prop where
  remembers : world.chargeControlRegistered = someAdded world.history
  registered :
    world.batteryHook.registered () = !failedSinceRegistered world.history

section Calls

variable {σ : Type} (kernel : BatteryKernel σ) (dmi : Dmi)
  (battery : Nat) (world : BatteryWorld σ)

/-- The variable is set by a call that succeeds. -/
theorem clevoBatteryAdd_flag (chargeControlRegistered : Bool) (state : σ) :
    (clevoBatteryAdd kernel dmi battery chargeControlRegistered
        state).2.1 =
      (decide
          ((clevoBatteryAdd kernel dmi battery chargeControlRegistered
            state).1 = 0) || chargeControlRegistered) := by
  have failure : decide ((-enodev : Int) = 0) = false := by
    decide
  unfold clevoBatteryAdd
  dsimp only
  split
  · rw [failure, Bool.false_or]
  · split
    · rw [failure, Bool.false_or]
    · rfl

/-- What a call of the hook leaves alone. -/
theorem frame_addBattery :
    (addBattery kernel dmi battery world).bound = world.bound ∧
      (addBattery kernel dmi battery world).batteries = world.batteries ∧
      (addBattery kernel dmi battery world).batteryHook.stale =
        world.batteryHook.stale := by
  unfold addBattery
  dsimp only
  split
  · exact ⟨rfl, rfl, rfl⟩
  · exact ⟨rfl, rfl, rfl⟩

theorem followsHistory_addBattery (follows : FollowsHistory world)
    (isRegistered : world.batteryHook.registered () = true) :
    FollowsHistory (addBattery kernel dmi battery world) := by
  have remembers :
      (clevoBatteryAdd kernel dmi battery world.chargeControlRegistered
          world.kernel).2.1 =
        someAdded
          (.added
              (clevoBatteryAdd kernel dmi battery
                world.chargeControlRegistered world.kernel).1 ::
            world.history) := by
    rw [clevoBatteryAdd_flag, someAdded_cons_added, follows.remembers]
  have notFailed : failedSinceRegistered world.history = false := by
    have registered := follows.registered
    rw [isRegistered] at registered
    simpa using registered.symm
  unfold addBattery
  dsimp only
  split
  case isTrue succeeded =>
    constructor
    · exact remembers
    · simp [succeeded, failedSinceRegistered, isRegistered, notFailed]
  case isFalse failed =>
    constructor
    · exact remembers
    · simp [Registry.lose, failedSinceRegistered, failed]

/-- The hook is called for one battery after the other. -/
theorem followsHistory_addBatteries (batteries : List Nat)
    {world : BatteryWorld σ} (follows : FollowsHistory world)
    (isRegistered : world.batteryHook.registered () = true) :
    FollowsHistory (addBatteries kernel dmi batteries world) := by
  induction batteries generalizing world with
  | nil =>
      exact follows
  | cons battery rest inductionHypothesis =>
      have added :=
        followsHistory_addBattery kernel dmi battery world follows
          isRegistered
      unfold addBatteries
      dsimp only
      split
      case isTrue stillRegistered =>
        exact inductionHypothesis added stillRegistered
      case isFalse =>
        exact added

theorem stale_addBatteries (batteries : List Nat)
    (world : BatteryWorld σ) :
    (addBatteries kernel dmi batteries world).batteryHook.stale =
      world.batteryHook.stale := by
  induction batteries generalizing world with
  | nil =>
      rfl
  | cons battery rest inductionHypothesis =>
      have kept := (frame_addBattery kernel dmi battery world).2.2
      unfold addBatteries
      dsimp only
      split
      · rw [inductionHypothesis, kept]
      · exact kept

/-- A registration begins a new part of the history. -/
theorem followsHistory_clevoFlexichargerInit
    (remembers :
      world.chargeControlRegistered = someAdded world.history) :
    FollowsHistory (clevoFlexichargerInit kernel dmi world) := by
  have begins : FollowsHistory
      { world with
        batteryHook := world.batteryHook.register ()
        history := .registered :: world.history } := by
    constructor
    · exact remembers
    · simp [Registry.register, failedSinceRegistered]
  have isRegistered :
      (world.batteryHook.register ()).registered () = true := by
    simp [Registry.register]
  exact
    followsHistory_addBatteries kernel dmi world.batteries begins
      isRegistered

end Calls

/-! ## Steps -/

section Steps

variable {σ : Type} (kernel : BatteryKernel σ) (dmi : Dmi)

/-- The variable follows the history always, the hook while the driver is
bound. -/
structure HookInvariant (world : BatteryWorld σ) : Prop where
  remembers : world.chargeControlRegistered = someAdded world.history
  registered : world.bound = true →
    world.batteryHook.registered () = !failedSinceRegistered world.history

/-- The names of the hook that a removal unregisters. -/
def hookRemovals (world : BatteryWorld σ) : List Unit :=
  if world.chargeControlRegistered = true then [()] else []

theorem batteryHook_clevoFlexichargerRemove (world : BatteryWorld σ) :
    (clevoFlexichargerRemove kernel world).batteryHook =
      world.batteryHook.unregisterAll (hookRemovals world) := by
  unfold clevoFlexichargerRemove hookRemovals
  split
  · rfl
  · rfl

/-- A removal is right exactly if the variable tells whether the hook is
registered. -/
theorem clean_clevoFlexichargerRemove_iff {world : BatteryWorld σ}
    (notStale : world.batteryHook.stale = false) :
    (clevoFlexichargerRemove kernel world).batteryHook.Clean ↔
      (world.batteryHook.registered () = true ↔
        world.chargeControlRegistered = true) := by
  have nodup : (hookRemovals world).Nodup := by
    unfold hookRemovals
    split <;> simp
  rw [batteryHook_clevoFlexichargerRemove,
    Registry.clean_unregisterAll_iff nodup notStale]
  have named : () ∈ hookRemovals world ↔
      world.chargeControlRegistered = true := by
    unfold hookRemovals
    split
    case isTrue set =>
      exact iff_of_true List.mem_cons_self set
    case isFalse clear =>
      exact iff_of_false List.not_mem_nil clear
  constructor
  · intro exactly
    rw [exactly ()]
    exact named
  · intro exactly resource
    rw [exactly]
    exact named.symm

/-- A removal of the driver finds what the history says. -/
theorem hookContract_remove_iff {world : BatteryWorld σ}
    (contract : HookContract world) (invariant : HookInvariant world) :
    HookContract (batteryStep kernel dmi .remove world) ↔
      HookCondition .remove world := by
  cases isBound : world.bound with
  | false =>
      have same : batteryStep kernel dmi .remove world = world := by
        simp [batteryStep, isBound]
      rw [same]
      apply iff_of_true contract
      intro bound
      rw [isBound] at bound
      cases bound
  | true =>
      have removed :
          HookContract (batteryStep kernel dmi .remove world) ↔
            (clevoFlexichargerRemove kernel world).batteryHook.Clean := by
        simp only [batteryStep, isBound, if_true]
        constructor
        · intro kept
          exact ⟨fun _ => kept.notLeft rfl, kept.notStale⟩
        · intro clean
          exact ⟨fun _ => clean.nothingLeft (), clean.notStale⟩
      have condition : HookCondition .remove world ↔
          (someAdded world.history = true ↔
            failedSinceRegistered world.history = false) :=
        ⟨fun meets => meets isBound, fun exactly _ => exactly⟩
      rw [removed, condition,
        clean_clevoFlexichargerRemove_iff kernel contract.notStale,
        invariant.registered isBound, invariant.remembers,
        Bool.not_eq_true']
      exact iff_comm

/-- Every other step keeps the contract. -/
theorem hookContract_step {item : BatteryStep} {world : BatteryWorld σ}
    (notRemove : item ≠ .remove) (contract : HookContract world) :
    HookContract (batteryStep kernel dmi item world) := by
  cases item with
  | remove =>
      exact absurd rfl notRemove
  | probe =>
      unfold batteryStep
      dsimp only
      split
      · exact contract
      · constructor
        · intro unbound
          cases unbound
        · have kept :
              (clevoFlexichargerInit kernel dmi world).batteryHook.stale =
                world.batteryHook.stale :=
            stale_addBatteries kernel dmi world.batteries _
          exact kept.trans contract.notStale
  | batteryAppears battery =>
      unfold batteryStep
      dsimp only
      split
      case isTrue isRegistered =>
        have frame :=
          frame_addBattery kernel dmi battery
            { world with batteries := battery :: world.batteries }
        constructor
        · intro unbound
          have left := contract.notLeft (frame.1.symm.trans unbound)
          rw [isRegistered] at left
          cases left
        · exact frame.2.2.trans contract.notStale
      case isFalse =>
        exact ⟨contract.notLeft, contract.notStale⟩
  | batteryDisappears battery =>
      unfold batteryStep
      dsimp only
      split
      · exact ⟨contract.notLeft, contract.notStale⟩
      · exact ⟨contract.notLeft, contract.notStale⟩

theorem hookInvariant_of_follows {world : BatteryWorld σ}
    (follows : FollowsHistory world) : HookInvariant world :=
  ⟨follows.remembers, fun _ => follows.registered⟩

/-- A hook that is registered belongs to a driver that is bound. -/
theorem bound_of_registered {world : BatteryWorld σ}
    (contract : HookContract world)
    (isRegistered : world.batteryHook.registered () = true) :
    world.bound = true := by
  by_contra unbound
  have left := contract.notLeft ((Bool.not_eq_true _).mp unbound)
  rw [isRegistered] at left
  cases left

theorem hookInvariant_step (item : BatteryStep) {world : BatteryWorld σ}
    (contract : HookContract world) (invariant : HookInvariant world) :
    HookInvariant (batteryStep kernel dmi item world) := by
  cases item with
  | probe =>
      unfold batteryStep
      dsimp only
      split
      · exact invariant
      · have follows :=
          followsHistory_clevoFlexichargerInit kernel dmi world
            invariant.remembers
        exact ⟨follows.remembers, fun _ => follows.registered⟩
  | remove =>
      have kept :
          (clevoFlexichargerRemove kernel world).chargeControlRegistered =
              world.chargeControlRegistered ∧
            (clevoFlexichargerRemove kernel world).history =
              world.history := by
        unfold clevoFlexichargerRemove
        split <;> exact ⟨rfl, rfl⟩
      unfold batteryStep
      dsimp only
      split
      · constructor
        · rw [kept.1, kept.2]
          exact invariant.remembers
        · intro bound
          cases bound
      · exact invariant
  | batteryAppears battery =>
      unfold batteryStep
      dsimp only
      split
      case isTrue isRegistered =>
        have isBound := bound_of_registered contract isRegistered
        have follows : FollowsHistory
            { world with batteries := battery :: world.batteries } :=
          ⟨invariant.remembers, invariant.registered isBound⟩
        exact
          hookInvariant_of_follows
            (followsHistory_addBattery kernel dmi battery _ follows
              isRegistered)
      case isFalse =>
        exact ⟨invariant.remembers, invariant.registered⟩
  | batteryDisappears battery =>
      unfold batteryStep
      dsimp only
      split
      · exact ⟨invariant.remembers, invariant.registered⟩
      · exact ⟨invariant.remembers, invariant.registered⟩

/-- Over every history the hook ends with the driver exactly if at each
removal the driver remembers a call with success just when no call has failed
since the probe. -/
theorem throughout_hookContract_iff (steps : List BatteryStep)
    (state : σ) (batteries : List Nat) :
    Throughout (batteryStep kernel dmi) HookContract steps
        { kernel := state, batteries := batteries } ↔
      EachStep (batteryStep kernel dmi) HookCondition steps
        { kernel := state, batteries := batteries } := by
  have exactly : ∀ item world, HookContract world → HookInvariant world →
      (HookContract (batteryStep kernel dmi item world) ↔
        HookCondition item world) := by
    intro item world contract invariant
    by_cases isRemove : item = .remove
    · rw [isRemove]
      exact hookContract_remove_iff kernel dmi contract invariant
    · apply iff_of_true
      · exact hookContract_step kernel dmi isRemove contract
      · cases item with
        | remove => exact absurd rfl isRemove
        | probe => trivial
        | batteryAppears => trivial
        | batteryDisappears => trivial
  have preserved : ∀ item world, HookContract world → HookInvariant world →
      HookContract (batteryStep kernel dmi item world) →
      HookInvariant (batteryStep kernel dmi item world) := by
    intro item world contract invariant _
    exact hookInvariant_step kernel dmi item contract invariant
  exact
    throughout_iff_eachStep_of_invariant exactly preserved steps
      ⟨fun _ => rfl, rfl⟩ ⟨rfl, nofun⟩

end Steps

/-- Firmware without a flexicharger that reads as failing. -/
def failingBatteries : BatteryKernel Unit where
  activeClevoInterface _ := none
  firmware
    | .wmiEvaluateMethod _ _, state => (.failure, state)
    | .acpiEvaluateDsm _ _, state => (none, state)
    | .activeDriverData, state => (false, state)
    | .acpiDeviceHandle, state => (false, state)
    | .strayObject, state => (.other, state)
    | .strayByte, state => (0, state)
    | .acpiFree _, state => ((), state)
  uninitialised _ := false
  deviceAddGroups _ state := (0, state)
  deviceRemoveGroups _ state := state

/-- Without a battery the hook stays when the driver has gone. -/
theorem not_throughout_hookContract_noBattery :
    ¬ Throughout (batteryStep failingBatteries fun _ => none) HookContract
      [.probe, .remove] { kernel := () } := by
  intro throughout
  have contract := throughout [.probe, .remove] List.prefix_rfl
  have left := contract.notLeft (by decide)
  revert left
  decide

end TuxedoDrivers.Clevo
