import TuxedoDrivers.Clevo.CallViews
import TuxedoDrivers.Clevo.Events
import TuxedoDrivers.Interaction.KnownSetting
import TuxedoDrivers.Sysfs

/-!
# Runs of the Fn lock of Clevo keyboards

The lock is read with two status bytes that a set has to send back.  Any
evaluation may fail, and one that fails may take effect.  What the results
tell about the lock is right all the same, and the status bytes never change.
-/

namespace TuxedoDrivers.Clevo

open Interaction

/-! ## The attribute -/

section Driver

variable (activeClevoInterface : Option ClevoInterface)

def clevoFnLockShow : Call (Except Int String) := do
  let got ← clevoAcpiFnGet activeClevoInterface
  if got.1 ≠ 0 then
    return .error got.1
  else
    let on ← readByte got.2.on
    return .ok (sysfsEmitByte on)

def clevoFnLockStore (buf : String) (size : Nat) : Call Int :=
  match kstrtoint buf 10 with
  | .error _ => return -einval
  | .ok on =>
      if on < 0 ∨ on > 1 then
        return -einval
      else do
        let err ← clevoAcpiFnLockSet activeClevoInterface on
        if err ≠ 0 then
          return err
        else
          return (size : Int)

theorem clevoFnLockStore_eq (buf : String) (size : Nat) :
    clevoFnLockStore activeClevoInterface buf size =
      match onAsked buf with
      | none => pure (-einval)
      | some on =>
          clevoAcpiFnLockSet activeClevoInterface on >>= fun err =>
            if err ≠ 0 then pure err else pure (size : Int) := by
  rw [clevoFnLockStore, onAsked]
  rcases kstrtoint buf 10 with err | on
  · rfl
  · by_cases outside : on < 0 ∨ on > 1
    · simp only [if_pos outside]
    · simp only [if_neg outside]

end Driver

/-! ## The firmware -/

structure FnLock where
  on : Bool
  kbstatus1 : U8
  kbstatus2 : U8
  deriving DecidableEq, Repr

namespace FnLock

def switch (lock : FnLock) (on : Bool) : FnLock :=
  { lock with on }

def reported (lock : FnLock) : FnStatus :=
  ⟨some (if lock.on = true then 1 else 0), some lock.kbstatus1,
    some lock.kbstatus2⟩

end FnLock

section Firmware

variable {σ : Type} (firmware : Firmware σ) (lock : σ → FnLock)

/-- An evaluation that succeeds reads or sets the lock and the bytes; a set
that fails takes effect or not. -/
structure KeepsFnLock : Prop extends Ready firmware .acpi lock where
  reads : ∀ state,
    let reply := firmware (.acpiEvaluateDsm 0x4 (.integer 0x18)) state
    lock reply.2 = lock state ∧
      ∀ object, reply.1 = some object →
        ∃ rest, object =
          .buffer ((if (lock state).on = true then 1 else 2) ::
            (lock state).kbstatus1 :: (lock state).kbstatus2 :: rest)
  sets : ∀ on kbstatus1 kbstatus2 state,
    let reply :=
      firmware
        (.acpiEvaluateDsm 0x4
          (.buffer (fnLockArgs on kbstatus1 kbstatus2))) state
    let set : FnLock := ⟨decide (on ≠ 0), kbstatus1, kbstatus2⟩
    (reply.1 ≠ none → lock reply.2 = set) ∧
      (lock reply.2 = lock state ∨ lock reply.2 = set)

/-- An evaluation that fails. -/
def Fails : Event clevoSignature → Prop
  | ⟨.acpiEvaluateDsm _ _, object⟩ => object = none
  | _ => False

/-- Some evaluation of the run fails. -/
def FailsIn {α : Type} (program : Call α) (state : σ) : Prop :=
  ∃ event ∈ program.trace firmware state, Fails event

variable {firmware lock}

section FailsIn

variable {α β : Type} {program : Call α} {rest : α → Call β} {state : σ}

theorem FailsIn.left (fails : FailsIn firmware program state) :
    FailsIn firmware (program >>= rest) state := by
  obtain ⟨event, member, fails⟩ := fails
  refine ⟨event, ?_, fails⟩
  rw [Program.trace_bind]
  exact List.mem_append_left _ member

theorem FailsIn.right
    (fails : FailsIn firmware (rest (program.run firmware state).1)
      (program.run firmware state).2) :
    FailsIn firmware (program >>= rest) state := by
  obtain ⟨event, member, fails⟩ := fails
  refine ⟨event, ?_, fails⟩
  rw [Program.trace_bind]
  exact List.mem_append_right _ member

end FailsIn

/-- A call on a ready interface fails only with its evaluation. -/
theorem Ready.failsIn_acpi {view : σ → FnLock}
    (ready : Ready firmware .acpi view) (cmd : U8) (argument : DsmArgument)
    (state : σ) :
    let call : Call MethodReturn := do
      let present ← activeDriverData
      if present = true then
        clevoAcpiEvaluateDsm cmd argument true
      else
        return ⟨-enodata, none⟩
    (call.run firmware state).1.status ≠ 0 → FailsIn firmware call state := by
  intro call failed
  have present := ready.driverData rfl state
  have handle := ready.deviceHandle rfl (firmware .activeDriverData state).2
  have valid : guidParse clevoAcpiDsmUuid = 0 := by decide
  let reached :=
    (firmware .acpiDeviceHandle (firmware .activeDriverData state).2).2
  refine
    ⟨⟨.acpiEvaluateDsm (cmd.setWidth 64) argument,
      (firmware (.acpiEvaluateDsm (cmd.setWidth 64) argument) reached).1⟩,
      ?_, ?_⟩
  · simp [call, reached, clevoAcpiEvaluateDsm, present, valid, handle]
  · simp only [call, clevoAcpiEvaluateDsm, Program.run_bind,
      run_activeDriverData, present, if_true, valid, lt_irrefl, if_false,
      run_acpiDeviceHandle, handle, Bool.true_eq_false,
      run_acpiEvaluateDsm] at failed
    change _ = none
    rcases evaluated :
        firmware (.acpiEvaluateDsm (cmd.setWidth 64) argument) reached with
      ⟨_ | object, after⟩
    · rfl
    · simp [reached, evaluated] at failed

/-- The lock is read, or an evaluation failed; a read changes nothing. -/
theorem KeepsFnLock.run_clevoAcpiFnGet (keeps : KeepsFnLock firmware lock)
    (state : σ) :
    let got := (clevoAcpiFnGet (some .acpi)).run firmware state
    lock got.2 = lock state ∧
      (got.1 = (0, (lock state).reported) ∨
        (got.1.1 < 0 ∧
          FailsIn firmware (clevoAcpiFnGet (some .acpi)) state)) := by
  have failsIf :=
    keeps.toReady.failsIn_acpi 0x4 (.integer 0x18) state
  obtain ⟨reached, same, ends, returned⟩ :=
    keeps.toReady.run_clevoEvaluateMethod2 0x4 0x18 state
  obtain ⟨unchanged, buffer⟩ := keeps.reads reached
  have asked :
      evaluation firmware .acpi 0x4 0x18 reached =
        firmware (.acpiEvaluateDsm 0x4 (.integer 0x18)) reached :=
    rfl
  rw [asked] at ends returned
  change
    (((clevoEvaluateMethod2 (some .acpi) 0x4 0x18 true).run firmware
      state).1.status ≠ 0 → _) at failsIf
  simp only [clevoAcpiFnGet, Program.run_bind]
  generalize (clevoEvaluateMethod2 (some .acpi) 0x4 0x18 true).run firmware
    state = called at ends returned failsIf ⊢
  obtain ⟨⟨status, stored⟩, after⟩ := called
  simp only at ends
  subst ends
  cases answer : (firmware (.acpiEvaluateDsm 0x4 (.integer 0x18)) reached).1
    with
  | none =>
      rw [answer] at returned
      have failed : status ≠ 0 := ne_of_lt returned
      rw [if_pos failed]
      exact
        ⟨unchanged.trans same, Or.inr ⟨returned, (failsIf failed).left⟩⟩
  | some object =>
      rw [answer] at returned
      cases returned
      obtain ⟨rest, isBuffer⟩ := buffer object answer
      subst isBuffer
      have kept (stored : Option AcpiObject) (later : σ) :=
        keeps.keepsUncalled (.acpiFree stored) later rfl
      simp only [ne_eq, not_true_eq_false, if_false, readObject,
        Program.run_bind, Program.run_pure]
      rw [same]
      refine
        ⟨(kept _ _).trans (unchanged.trans same), Or.inl ?_⟩
      cases isOn : (lock state).on with
      | true =>
          rw [FnLock.reported, isOn]
          rfl
      | false =>
          rw [FnLock.reported, isOn]
          rfl

/-- What a set does with the lock that it has read. -/
def setAfterGet (on : Int) (previous : Int × FnStatus) : Call Int := do
  if previous.1 ≠ 0 then
    return previous.1
  else
    let kbstatus1 ← readByte previous.2.kbstatus1
    let kbstatus2 ← readByte previous.2.kbstatus2
    let reply ←
      clevoEvaluateMethodPkgbuf (some .acpi) 0x4
        (fnLockArgs on kbstatus1 kbstatus2) true
    if reply.status ≠ 0 then
      return reply.status
    else
      acpiFree reply.stored
      return reply.status

/-- The lock is set with the bytes that it has, or some evaluation failed. -/
theorem KeepsFnLock.run_clevoAcpiFnLockSet
    (keeps : KeepsFnLock firmware lock) (on : Int) (state : σ) :
    let reached := (clevoAcpiFnLockSet (some .acpi) on).run firmware state
    let set := (lock state).switch (decide (on ≠ 0))
    (reached.1 = 0 ∧ lock reached.2 = set) ∨
      (reached.1 < 0 ∧
        FailsIn firmware (clevoAcpiFnLockSet (some .acpi) on) state ∧
        (lock reached.2 = lock state ∨ lock reached.2 = set)) := by
  obtain ⟨unchanged, got⟩ := keeps.run_clevoAcpiFnGet state
  have failsLater :
      FailsIn firmware (setAfterGet on
          ((clevoAcpiFnGet (some .acpi)).run firmware state).1)
          ((clevoAcpiFnGet (some .acpi)).run firmware state).2 →
        FailsIn firmware (clevoAcpiFnLockSet (some .acpi) on) state :=
    FailsIn.right
  have failsFirst :
      FailsIn firmware (clevoAcpiFnGet (some .acpi)) state →
        FailsIn firmware (clevoAcpiFnLockSet (some .acpi) on) state :=
    FailsIn.left
  generalize FailsIn firmware (clevoAcpiFnLockSet (some .acpi) on) state =
    failing at failsFirst failsLater ⊢
  simp only [clevoAcpiFnLockSet, Program.run_bind]
  generalize (clevoAcpiFnGet (some .acpi)).run firmware state = previous
    at unchanged got failsLater ⊢
  obtain ⟨⟨status, bytes⟩, after⟩ := previous
  rcases got with shown | ⟨failed, fails⟩
  · cases shown
    have failsIf :=
      keeps.toReady.failsIn_acpi 0x4
        (.buffer (fnLockArgs on (lock state).kbstatus1
          (lock state).kbstatus2)) after
    change
      (((clevoEvaluateMethodPkgbuf (some .acpi) 0x4
        (fnLockArgs on (lock state).kbstatus1 (lock state).kbstatus2)
        true).run firmware after).1.status ≠ 0 → _) at failsIf
    obtain ⟨reached, same, ends, returned⟩ :=
      keeps.toReady.run_clevoEvaluateMethodPkgbuf 0x4
        (fnLockArgs on (lock state).kbstatus1 (lock state).kbstatus2) after
    have sets :=
      keeps.sets on (lock state).kbstatus1 (lock state).kbstatus2 reached
    have before : lock reached = lock state := same.trans unchanged
    have function : (0x4 : U8).setWidth 64 = (0x4 : U64) := rfl
    rw [function] at ends returned
    rw [before] at sets
    simp only [FnLock.reported, ne_eq, not_true_eq_false, if_false, readByte,
      Program.run_bind, Program.run_pure]
    generalize (clevoEvaluateMethodPkgbuf (some .acpi) 0x4
      (fnLockArgs on (lock state).kbstatus1 (lock state).kbstatus2)
      true).run firmware after = called at ends returned failsIf ⊢
    obtain ⟨⟨result, stored⟩, last⟩ := called
    simp only at ends
    subst ends
    cases answer : (firmware (.acpiEvaluateDsm 0x4
        (.buffer (fnLockArgs on (lock state).kbstatus1
          (lock state).kbstatus2))) reached).1 with
    | none =>
        rw [answer] at returned
        have notZero : ¬ result = 0 := ne_of_lt returned
        simp only [notZero, not_false_eq_true, if_true, Program.run_pure]
        exact
          Or.inr ⟨returned, failsLater (failsIf notZero).left, sets.2⟩
    | some object =>
        rw [answer] at returned
        cases returned
        have set := sets.1 (by rw [answer]; exact Option.some_ne_none object)
        simp only [not_true_eq_false, if_false, Program.run_bind,
          Program.run_pure]
        exact
          Or.inl
            ⟨trivial, (keeps.keepsUncalled (.acpiFree _) _ rfl).trans set⟩
  · have notZero : status ≠ 0 := ne_of_lt failed
    rw [if_pos notZero]
    exact Or.inr ⟨failed, failsFirst fails, Or.inl unchanged⟩

/-! ## Runs -/

/-- What happens to the lock; the toggle is the key on the keyboard. -/
inductive FnLockStep where
  | store (buf : String) (size : Nat)
  | display
  | toggle
  deriving DecidableEq, Repr

/-- The firmware, and what the results of the stores tell. -/
structure FnLockRun (σ : Type) where
  state : σ
  known : Option Bool

/-- Nobody sees what came of a toggle. -/
def fnLockStep (firmware : Firmware σ) :
    FnLockStep → FnLockRun σ → FnLockRun σ
  | .store buf size, run =>
      let reached :=
        (clevoFnLockStore (some .acpi) buf size).run firmware run.state
      let attempt :=
        (onAsked buf).map fun on =>
          (decide (on ≠ 0), decide (0 ≤ reached.1))
      { state := reached.2, known := knownAfter run.known attempt }
  | .display, run =>
      { run with
        state := ((clevoFnLockShow (some .acpi)).run firmware run.state).2 }
  | .toggle, run =>
      { state := ((toggleFnLock (some .acpi)).run firmware run.state).2
        known := none }

/-- What the steps make of a lock whose evaluations all succeed. -/
def FnLockStep.apply : FnLockStep → FnLock → FnLock
  | .store buf _, lock =>
      match onAsked buf with
      | some on => lock.switch (decide (on ≠ 0))
      | none => lock
  | .display, lock => lock
  | .toggle, lock => lock.switch !lock.on

/-- Some evaluation of the step fails. -/
def FnLockStep.FailsIn (firmware : Firmware σ) (state : σ) :
    FnLockStep → Prop
  | .store buf size =>
      Clevo.FailsIn firmware (clevoFnLockStore (some .acpi) buf size) state
  | .display => Clevo.FailsIn firmware (clevoFnLockShow (some .acpi)) state
  | .toggle => Clevo.FailsIn firmware (toggleFnLock (some .acpi)) state

/-- What one step does to a lock: as if all evaluations succeeded, or one of
its evaluations failed and the lock is as before or as if it had not. -/
def Stepped (firmware : Firmware σ) (step : FnLockStep) (state : σ)
    (before after : FnLock) : Prop :=
  after = step.apply before ∨
    (step.FailsIn firmware state ∧ after = before)

theorem KeepsFnLock.run_clevoFnLockShow (keeps : KeepsFnLock firmware lock)
    (state : σ) :
    let reached := (clevoFnLockShow (some .acpi)).run firmware state
    lock reached.2 = lock state ∧
      ∀ printed, reached.1 = .ok printed →
        printed =
          sysfsEmitByte (if (lock state).on = true then 1 else 0) := by
  obtain ⟨unchanged, got⟩ := keeps.run_clevoAcpiFnGet state
  simp only [clevoFnLockShow, Program.run_bind]
  generalize (clevoAcpiFnGet (some .acpi)).run firmware state = reply
    at unchanged got ⊢
  obtain ⟨⟨status, bytes⟩, after⟩ := reply
  rcases got with shown | ⟨failed, -⟩
  · cases shown
    refine ⟨unchanged, fun printed shows => ?_⟩
    cases shows
    rfl
  · have notZero : status ≠ 0 := ne_of_lt failed
    rw [if_pos notZero]
    exact ⟨unchanged, fun printed shows => nomatch shows⟩

/-- What a toggle does with the lock that it has read. -/
def toggleAfterGet (previous : Int × FnStatus) : Call Unit := do
  if previous.1 ≠ 0 then
    return ()
  else
    let on ← readByte previous.2.on
    if on = 1 then
      let _ ← clevoAcpiFnLockSet (some .acpi) 0
      return ()
    else
      let _ ← clevoAcpiFnLockSet (some .acpi) 1
      return ()

theorem KeepsFnLock.run_toggleFnLock (keeps : KeepsFnLock firmware lock)
    (state : σ) :
    Stepped firmware .toggle state (lock state)
      (lock ((toggleFnLock (some .acpi)).run firmware state).2) := by
  obtain ⟨unchanged, got⟩ := keeps.run_clevoAcpiFnGet state
  have failsFirst :
      FailsIn firmware (clevoAcpiFnGet (some .acpi)) state →
        FailsIn firmware (toggleFnLock (some .acpi)) state :=
    FailsIn.left
  have failsLater :
      FailsIn firmware (toggleAfterGet
          ((clevoAcpiFnGet (some .acpi)).run firmware state).1)
          ((clevoAcpiFnGet (some .acpi)).run firmware state).2 →
        FailsIn firmware (toggleFnLock (some .acpi)) state :=
    FailsIn.right
  unfold Stepped FnLockStep.FailsIn
  generalize FailsIn firmware (toggleFnLock (some .acpi)) state = failing
    at failsFirst failsLater ⊢
  simp only [toggleFnLock, Program.run_bind]
  generalize (clevoAcpiFnGet (some .acpi)).run firmware state = reply
    at unchanged got failsLater ⊢
  obtain ⟨⟨status, bytes⟩, after⟩ := reply
  simp only at unchanged failsLater
  rcases got with shown | ⟨failed, fails⟩
  · cases shown
    have stepped (on : Int) (other : decide (on ≠ 0) = !(lock state).on)
        (failsSet :
          FailsIn firmware (clevoAcpiFnLockSet (some .acpi) on) after →
            failing) :
        (lock ((clevoAcpiFnLockSet (some .acpi) on).run firmware
            after).2 = FnLockStep.toggle.apply (lock state)) ∨
          (failing ∧
            lock ((clevoAcpiFnLockSet (some .acpi) on).run firmware
              after).2 = lock state) := by
      have set := keeps.run_clevoAcpiFnLockSet on after
      rw [unchanged, other] at set
      rcases set with ⟨-, set⟩ | ⟨-, fails, kept | set⟩
      · exact Or.inl set
      · exact Or.inr ⟨failsSet fails, kept⟩
      · exact Or.inl set
    cases isOn : (lock state).on with
    | true =>
        simp only [toggleAfterGet, FnLock.reported, isOn, if_true, ne_eq,
          not_true_eq_false, if_false, readByte, pure_bind,
          Program.run_bind, Program.run_pure] at failsLater ⊢
        exact
          stepped 0 (by rw [isOn]; rfl) fun fails => failsLater fails.left
    | false =>
        have isOff : ¬ (0 : U8) = 1 := by decide
        simp only [toggleAfterGet, FnLock.reported, isOn,
          Bool.false_eq_true, ne_eq, not_true_eq_false, if_false, readByte,
          pure_bind, Program.run_bind, Program.run_pure, if_neg isOff]
          at failsLater ⊢
        exact
          stepped 1 (by rw [isOn]; rfl) fun fails => failsLater fails.left
  · have notZero : status ≠ 0 := ne_of_lt failed
    rw [if_pos notZero]
    exact Or.inr ⟨failsFirst fails, unchanged⟩

/-- A store does what its text asks for if it says so, and else it does
nothing or what its text asks for. -/
theorem KeepsFnLock.run_clevoFnLockStore (keeps : KeepsFnLock firmware lock)
    (buf : String) (size : Nat) (state : σ) :
    let reached :=
      (clevoFnLockStore (some .acpi) buf size).run firmware state
    Stepped firmware (.store buf size) state (lock state)
        (lock reached.2) ∧
      Tried (lock state).on (lock reached.2).on
        ((onAsked buf).map fun on =>
          (decide (on ≠ 0), decide (0 ≤ reached.1))) := by
  simp only [Stepped, FnLockStep.FailsIn]
  rw [clevoFnLockStore_eq]
  cases asks : onAsked buf with
  | none =>
      refine ⟨Or.inl ?_, rfl⟩
      rw [FnLockStep.apply, asks]
      rfl
  | some on =>
      have apply :
          (FnLockStep.store buf size).apply (lock state) =
            (lock state).switch (decide (on ≠ 0)) := by
        rw [FnLockStep.apply, asks]
      have set := keeps.run_clevoAcpiFnLockSet on state
      have failsSet :
          FailsIn firmware (clevoAcpiFnLockSet (some .acpi) on) state →
            FailsIn firmware
              (clevoAcpiFnLockSet (some .acpi) on >>= fun err =>
                if err ≠ 0 then pure err else pure (size : Int)) state :=
        FailsIn.left
      simp only [apply, Program.run_bind, Option.map_some]
      generalize (clevoAcpiFnLockSet (some .acpi) on).run firmware state =
        reply at set ⊢
      obtain ⟨err, after⟩ := reply
      simp only at set
      rcases set with ⟨success, set⟩ | ⟨failure, fails, keptOrSet⟩
      · rw [if_neg (not_not_intro success), Program.run_pure,
          decide_eq_true (Int.natCast_nonneg size), set]
        exact ⟨Or.inl rfl, rfl⟩
      · have notZero : err ≠ 0 := ne_of_lt failure
        rw [if_pos notZero, Program.run_pure,
          decide_eq_false (not_le_of_gt failure)]
        rcases keptOrSet with kept | set
        · rw [kept]
          exact ⟨Or.inr ⟨failsSet fails, rfl⟩, Or.inl rfl⟩
        · rw [set]
          exact ⟨Or.inl rfl, Or.inr rfl⟩

theorem KeepsFnLock.stepped (keeps : KeepsFnLock firmware lock)
    (step : FnLockStep) (run : FnLockRun σ) :
    Stepped firmware step run.state (lock run.state)
      (lock (fnLockStep firmware step run).state) := by
  cases step with
  | store buf size => exact (keeps.run_clevoFnLockStore buf size _).1
  | display => exact Or.inl (keeps.run_clevoFnLockShow _).1
  | toggle => exact keeps.run_toggleFnLock _

theorem KeepsFnLock.fits_step (keeps : KeepsFnLock firmware lock)
    (step : FnLockStep) {run : FnLockRun σ}
    (fits : Fits run.known (lock run.state).on) :
    Fits (fnLockStep firmware step run).known
      (lock (fnLockStep firmware step run).state).on := by
  cases step with
  | store buf size =>
      exact fits.knownAfter (keeps.run_clevoFnLockStore buf size _).2
  | display =>
      have unchanged := (keeps.run_clevoFnLockShow run.state).1
      simp only [fnLockStep, unchanged]
      exact fits
  | toggle => exact fits_none _

/-- No step changes the status bytes. -/
theorem kbstatus_apply (step : FnLockStep) (lock : FnLock) :
    (step.apply lock).kbstatus1 = lock.kbstatus1 ∧
      (step.apply lock).kbstatus2 = lock.kbstatus2 := by
  cases step with
  | store buf size =>
      rw [FnLockStep.apply]
      split <;> exact ⟨rfl, rfl⟩
  | display => exact ⟨rfl, rfl⟩
  | toggle => exact ⟨rfl, rfl⟩

/-- What a show prints is a text of the lock. -/
theorem onAsked_shown (on : Bool) :
    onAsked (sysfsEmitByte (if on = true then 1 else 0)) =
      some (if on = true then 1 else 0) := by
  cases on <;> decide +kernel

/-- Over any stores, shows and toggles, whatever evaluations fail: what the
results tell of the lock is so, a show that succeeds prints a text that asks
for it, and the status bytes stay as they are.  If no evaluation of the run
fails, the lock is what the steps make of it. -/
theorem known_fnLock (keeps : KeepsFnLock firmware lock) (state : σ)
    (steps : List FnLockStep) :
    let reached := runSteps (fnLockStep firmware) steps ⟨state, none⟩
    (∀ on, reached.known = some on →
      (lock reached.state).on = on ∧
        ∀ printed,
          ((clevoFnLockShow (some .acpi)).run firmware reached.state).1 =
              .ok printed →
            onAsked printed = some (if on = true then 1 else 0)) ∧
      (lock reached.state).kbstatus1 = (lock state).kbstatus1 ∧
      (lock reached.state).kbstatus2 = (lock state).kbstatus2 ∧
      (EachStep (fnLockStep firmware)
          (fun step run => ¬ step.FailsIn firmware run.state) steps
          ⟨state, none⟩ →
        lock reached.state =
          runSteps FnLockStep.apply steps (lock state)) := by
  intro reached
  have fits : Fits reached.known (lock reached.state).on :=
    runSteps_preserves (fnLockStep firmware)
      (fun run => Fits run.known (lock run.state).on)
      (fun step _ fits => keeps.fits_step step fits) steps (fits_none _)
  have bytes :
      (lock reached.state).kbstatus1 = (lock state).kbstatus1 ∧
        (lock reached.state).kbstatus2 = (lock state).kbstatus2 := by
    refine
      runSteps_preserves (fnLockStep firmware)
        (fun run =>
          (lock run.state).kbstatus1 = (lock state).kbstatus1 ∧
            (lock run.state).kbstatus2 = (lock state).kbstatus2)
        (fun step run same => ?_) steps ⟨rfl, rfl⟩
    rcases keeps.stepped step run with applied | ⟨-, kept⟩
    · rw [applied, (kbstatus_apply step _).1, (kbstatus_apply step _).2]
      exact same
    · rw [kept]
      exact same
  refine ⟨fun on isKnown => ?_, bytes.1, bytes.2, ?_⟩
  · have isOn := fits on isKnown
    refine ⟨isOn, fun printed shows => ?_⟩
    have shown :=
      (keeps.run_clevoFnLockShow reached.state).2 printed shows
    rw [shown, isOn]
    exact onAsked_shown on
  · have applied (run : FnLockRun σ) (steps : List FnLockStep)
        (succeeds :
          EachStep (fnLockStep firmware)
            (fun step run => ¬ step.FailsIn firmware run.state) steps run) :
        lock (runSteps (fnLockStep firmware) steps run).state =
          runSteps FnLockStep.apply steps (lock run.state) := by
      induction steps generalizing run with
      | nil => rfl
      | cons step rest inductionHypothesis =>
          rw [runSteps_cons, runSteps_cons,
            inductionHypothesis _ succeeds.2]
          rcases keeps.stepped step run with applied | ⟨fails, -⟩
          · rw [applied]
          · exact absurd fails succeeds.1
    exact applied ⟨state, none⟩ steps

end Firmware

/-- Firmware with a lock, whose evaluations fail as the list says; those that
fail have no effect. -/
def keepingFirmware : Firmware (FnLock × List Bool)
  | .acpiEvaluateDsm _ argument, (lock, succeeds) =>
      if succeeds.headD true = true then
        match argument with
        | .integer _ =>
            (some (.buffer
              [if lock.on = true then 1 else 2, lock.kbstatus1,
                lock.kbstatus2]), (lock, succeeds.tail))
        | .buffer [_, on, kbstatus1, kbstatus2] =>
            (some (.integer 0),
              (⟨decide (on = 1), kbstatus1, kbstatus2⟩, succeeds.tail))
        | .buffer _ => (some (.integer 0), (lock, succeeds.tail))
      else (none, (lock, succeeds.tail))
  | .wmiEvaluateMethod _ _, state => (.failure, state)
  | .activeDriverData, state => (true, state)
  | .acpiDeviceHandle, state => (true, state)
  | .strayObject, state => (.other, state)
  | .strayByte, state => (0, state)
  | .acpiFree _, state => ((), state)

theorem keepingFirmware_keepsFnLock :
    KeepsFnLock keepingFirmware Prod.fst where
  driverData _ _ := rfl
  deviceHandle _ _ := rfl
  keepsUncalled request state notEvaluated := by
    cases request with
    | acpiEvaluateDsm function argument => cases notEvaluated
    | wmiEvaluateMethod methodId arg => cases notEvaluated
    | activeDriverData => rfl
    | acpiDeviceHandle => rfl
    | strayObject => rfl
    | strayByte => rfl
    | acpiFree object => rfl
  reads state := by
    obtain ⟨lock, succeeds⟩ := state
    simp only [keepingFirmware]
    split
    · refine ⟨rfl, fun object isObject => ⟨[], ?_⟩⟩
      exact (Option.some.inj isObject).symm
    · exact ⟨rfl, nofun⟩
  sets on kbstatus1 kbstatus2 state := by
    obtain ⟨lock, succeeds⟩ := state
    have decodes :
        decide ((if on ≠ 0 then (0x01 : U8) else 0x02) = 1) =
          decide (on ≠ 0) := by
      by_cases isOn : on ≠ 0
      · rw [if_pos isOn, decide_eq_true isOn]
        rfl
      · rw [if_neg isOn, decide_eq_false isOn]
        rfl
    simp only [keepingFirmware, fnLockArgs, decodes]
    split
    · exact ⟨fun _ => rfl, Or.inr rfl⟩
    · exact ⟨fun succeeded => absurd rfl succeeded, Or.inl rfl⟩

/-- A store that fails makes nothing known; one that succeeds does, and the
status bytes stay. -/
theorem known_fnLock_storeAgain :
    let steps : List FnLockStep :=
      [.store "1\n" 2, .toggle, .store "0\n" 2, .store "2\n" 2]
    let reached :=
      runSteps (fnLockStep keepingFirmware) steps
        ⟨(⟨false, 0x12, 0x34⟩, [true, false]), none⟩
    reached.state.1.on = false ∧ reached.state.1.kbstatus1 = 0x12 := by
  intro steps reached
  have known :=
    known_fnLock keepingFirmware_keepsFnLock
      (⟨false, 0x12, 0x34⟩, [true, false]) steps
  exact ⟨(known.1 false (by decide +kernel)).1, known.2.1⟩

end TuxedoDrivers.Clevo
