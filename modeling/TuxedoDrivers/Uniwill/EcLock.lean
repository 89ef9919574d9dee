import TuxedoDrivers.Interaction.LockedCalls
import TuxedoDrivers.Uniwill.BackendRefinement

/-!
# Calls of the back ends under their mutex

Both back ends of `uniwill_wmi.c` make the requests of a call with
`uniwill_ec_lock`, up to thirty polls of the mailbox included, while the
operations of the driver run in several threads.  With one call under the
mutex and a free choice of the back end for each call, the threads do what
they would do on a RAM that answers every access in one step.
-/

namespace TuxedoDrivers.Uniwill

open Interaction

/-- The requests of the driver: those to the EC are made under
`uniwill_ec_lock`, with the setting that the call finds, and the static
variables are accessed without it. -/
def byBackEnds (overrun : EcRead × EcWrite) :
    (call : uniwillSignature.Request) →
      Implementation DriverState Bool backendSignature
        (uniwillSignature.Answer call)
  | .readEcRam address =>
      .underLock fun direct =>
        readOutcome overrun.1 <$> readEcRamWith direct address
  | .writeEcRam address data =>
      .underLock fun direct =>
        writeOutcome overrun.2 <$> writeEcRamWith direct address data
  | .statics update => .access fun statics => (statics, update statics)

section Lock

variable {σ : Type} {firmware : Firmware σ} {view : σ → EcView}

/-- A call that is alone is one access to a RAM that never fails. -/
theorem implements_byBackEnds
    (oneRam : AccessesOneRam firmware view) (overrun : EcRead × EcWrite) :
    Callers.Implements (byBackEnds overrun) firmware.environment
      reliableEc.environment fun state ram => Idle view ram state := by
  constructor
  · intro call update made statics ram
    cases call with
    | readEcRam address => cases made
    | writeEcRam address data => cases made
    | statics assignment =>
        cases made
        rfl
  · intro call body made direct statics state ram idle
    cases call with
    | readEcRam address =>
        cases made
        obtain ⟨after, result, stillIdle⟩ :=
          run_readEcRamWith oneRam idle direct address
        unfold Firmware.run at result
        refine ⟨ram, ?_, ?_⟩
        · rw [Program.run_map, result]
          rfl
        · rw [Program.run_map, result]
          exact stillIdle
    | writeEcRam address data =>
        cases made
        obtain ⟨after, result, stillIdle⟩ :=
          run_writeEcRamWith oneRam idle direct address data
        unfold Firmware.run at result
        refine ⟨Function.update ram address data, ?_, ?_⟩
        · rw [Program.run_map, result]
          rfl
        · rw [Program.run_map, result]
          exact stillIdle
    | statics assignment =>
        cases made

end Lock

/-- However the requests of the threads come between each other, and
whichever back end each call takes, a call that is under way can be finished,
and then the threads, the static variables and the RAM are as after accesses
in one step each to a RAM that never fails, in the order in which the calls
took the mutex. -/
theorem driver_calls_atomic
    {σ ι α : Type} [DecidableEq ι] (firmware : Firmware σ)
    (view : σ → EcView) (oneRam : AccessesOneRam firmware view)
    (overrun : EcRead × EcWrite) (programs : ι → Driver α)
    (statics : DriverState) (state : σ) (cleared : (view state).flags = 0)
    (schedule : List (ι × Bool)) :
    ∃ turns,
      let reached :=
        (Callers.start programs statics state).run (byBackEnds overrun)
          firmware.environment (schedule ++ turns)
      let threads :=
        (Threads.mk programs (statics, (view state).ram)).run
          reliableEc.environment
          ((Callers.start programs statics state).order (byBackEnds overrun)
            firmware.environment schedule)
      reached.holder = none ∧
        (∀ thread,
          (reached.callers thread).settled firmware.environment
              reached.device =
            threads.programs thread) ∧
        reached.shared = threads.state.1 ∧
        (view reached.device).ram = threads.state.2 ∧
        (view reached.device).flags = 0 := by
  have idle : Idle view (view state).ram state := ⟨rfl, cleared⟩
  obtain ⟨turns, released, samePrograms, sameStatics, stillIdle⟩ :=
    Callers.exists_settled (implements_byBackEnds oneRam overrun) programs
      statics idle false schedule
  exact
    ⟨turns, released, samePrograms, sameStatics, stillIdle.1, stillIdle.2⟩

/-- Two threads that update one register, on the slowest firmware that is in
time. -/
theorem driver_calls_atomic_slowest :
    let increment (address : U16) : Driver Unit := do
      let found ← uniwillReadEcRam address
      let _ ← uniwillWriteEcRam address (found.data + 1)
      return ()
    let programs : Bool → Driver Unit := fun _ => increment 0x0751
    let start : MailboxEc := ⟨⟨fun _ => 0, fun _ => 0⟩, 0⟩
    ∀ schedule, ∃ turns,
      let reached :=
        (Callers.start programs {} start).run
          (byBackEnds (.fail 0, .fail)) (mailboxFirmware 28).environment
          (schedule ++ turns)
      reached.holder = none := by
  intro increment programs start schedule
  obtain ⟨turns, released, -⟩ :=
    driver_calls_atomic (mailboxFirmware 28) MailboxEc.shown
      (mailboxFirmware_accessesOneRam (by decide)) (.fail 0, .fail) programs
      {} start rfl schedule
  exact ⟨turns, released⟩

end TuxedoDrivers.Uniwill
