import TuxedoDrivers.Interaction.Runs
import TuxedoDrivers.Ite.Ite8291Lb
import TuxedoDrivers.Ite.Ite8297

/-!
# Drivers that tell a device everything they keep

The keyboards with zones and the lightbars are written as a whole whenever
anything of them changes, and again after a sleep.  No result of a transfer is
looked at.  So it does not matter which transfers failed before: the device
has been told everything as soon as the transfers of one step are taken.
-/

namespace TuxedoDrivers.Ite

open Interaction

/-! ## What a device was told -/

/-- What a report is about: the color of a slot, or else what its number
says. -/
def reportKey : List U8 → List U8
  | 0x14 :: _ :: slot :: _ => [0x14, slot]
  | number :: _ => [number]
  | [] => []

def featureReport (buf : List U8) : HidRequest :=
  .setFeatureReport (buf.getD 0 0) buf

/-- The last report about each matter. -/
abbrev Told : Type := List U8 → Option (List U8)

def Told.tell (told : Told) (buf : List U8) : Told :=
  Function.update told (reportKey buf) (some buf)

def Told.tellAll (told : Told) (reports : List (List U8)) : Told :=
  reports.foldl tell told

/-- A report that is taken is remembered; nothing is said of the others. -/
def Remembers {σ : Type} (transport : HidTransport σ) (told : σ → Told) :
    Prop :=
  ∀ buf state, 0 ≤ (transport (featureReport buf) state).1 →
    told (transport (featureReport buf) state).2 = (told state).tell buf

/-- Every transfer of a run is taken. -/
def AllTaken {σ α : Type} (transport : HidTransport σ) (program : Hid α)
    (state : σ) : Prop :=
  ∀ event ∈ program.trace transport state, (0 : Int) ≤ event.answer

namespace Told

theorem tellAll_append (told : Told) (first second : List (List U8)) :
    told.tellAll (first ++ second) = (told.tellAll first).tellAll second :=
  List.foldl_append

theorem tellAll_of_notMem {reports : List (List U8)} {key : List U8}
    (absent : key ∉ reports.map reportKey) (told : Told) :
    told.tellAll reports key = told key := by
  induction reports generalizing told with
  | nil =>
      rfl
  | cons buf rest inductionHypothesis =>
      rw [List.map_cons, List.mem_cons, not_or] at absent
      change (told.tell buf).tellAll rest key = told key
      rw [inductionHypothesis absent.2]
      exact Function.update_of_ne absent.1 _ _

/-- Of reports about different matters, each is remembered. -/
theorem tellAll_of_mem {reports : List (List U8)}
    (distinct : (reports.map reportKey).Nodup) {buf : List U8}
    (member : buf ∈ reports) (told : Told) :
    told.tellAll reports (reportKey buf) = some buf := by
  induction reports generalizing told with
  | nil =>
      cases member
  | cons first rest inductionHypothesis =>
      rw [List.map_cons, List.nodup_cons] at distinct
      rcases List.mem_cons.mp member with rfl | later
      · change (told.tell buf).tellAll rest (reportKey buf) = some buf
        rw [tellAll_of_notMem distinct.1]
        exact Function.update_self _ _ _
      · exact inductionHypothesis distinct.2 later (told.tell first)

end Told

section Taken

variable {σ α β : Type} {transport : HidTransport σ} {told : σ → Told}

/-- Reports that are all taken are all told, in their order. -/
theorem told_of_allTaken (remembers : Remembers transport told)
    {program : Hid α} {state : σ} {reports : List (List U8)}
    (sends : transfers transport state program = reports.map featureReport)
    (taken : AllTaken transport program state) :
    told (program.run transport state).2 = (told state).tellAll reports := by
  induction program generalizing state reports with
  | done value =>
      have isNil : reports = [] := List.map_eq_nil_iff.mp sends.symm
      rw [isNil]
      rfl
  | ask request next inductionHypothesis =>
      cases reports with
      | nil => cases sends
      | cons buf rest =>
          have both := List.cons.inj sends
          have isReport : request = featureReport buf := both.1
          subst isReport
          have own : 0 ≤ (transport (featureReport buf) state).1 :=
            taken _ (List.mem_cons_self ..)
          have later :
              AllTaken transport
                (next (transport (featureReport buf) state).1)
                (transport (featureReport buf) state).2 :=
            fun event inLater => taken event (List.mem_cons_of_mem _ inLater)
          have reached := inductionHypothesis _ both.2 later
          rw [remembers buf state own] at reached
          exact reached

end Taken

/-! ## The drivers -/

/-- A driver that keeps some data, and whose stores and resumes write all of
it.  A resume may write something else before. -/
structure LightDriver where
  Kept : Type
  Store : Type
  probed : Kept
  store : Store → Kept → Hid Kept
  suspend : Hid Int
  resume : Kept → Hid Int
  stored : Store → Kept → Kept
  reports : Kept → List (List U8)
  onReports : List (List U8)
  offReports : List (List U8)
  distinct : ∀ kept, ((onReports ++ reports kept).map reportKey).Nodup
  run_store : ∀ {σ : Type} (transport : HidTransport σ) item kept state,
    ((store item kept).run transport state).1 = stored item kept
  transfers_store : ∀ {σ : Type} (transport : HidTransport σ) item kept
    state, transfers transport state (store item kept) =
      (reports (stored item kept)).map featureReport
  transfers_suspend : ∀ {σ : Type} (transport : HidTransport σ) state,
    transfers transport state suspend = offReports.map featureReport
  transfers_resume : ∀ {σ : Type} (transport : HidTransport σ) kept state,
    transfers transport state (resume kept) =
      (onReports ++ reports kept).map featureReport

namespace LightDriver

/-- What happens to a device that was probed. -/
inductive Step (driver : LightDriver) where
  | store (item : driver.Store)
  | suspend
  | resume

variable (driver : LightDriver)

def program : driver.Step → driver.Kept → Hid driver.Kept
  | .store item, kept => driver.store item kept
  | .suspend, kept => (fun _ => kept) <$> driver.suspend
  | .resume, kept => (fun _ => kept) <$> driver.resume kept

def step {σ : Type} (transport : HidTransport σ) (item : driver.Step)
    (machine : driver.Kept × σ) : driver.Kept × σ :=
  (driver.program item machine.1).run transport machine.2

/-- What becomes of the data. -/
def keep : driver.Step → driver.Kept → driver.Kept
  | .store item, kept => driver.stored item kept
  | .suspend, kept => kept
  | .resume, kept => kept

/-- What the device has to know after a step. -/
def shownAfter (kept : driver.Kept) : driver.Step → List (List U8)
  | .store _ => driver.reports kept
  | .suspend => driver.offReports.getLast?.toList
  | .resume => driver.onReports ++ driver.reports kept

variable {driver} {σ : Type} {transport : HidTransport σ} {told : σ → Told}

theorem step_fst (transport : HidTransport σ) (item : driver.Step)
    (machine : driver.Kept × σ) :
    (driver.step transport item machine).1 = driver.keep item machine.1 := by
  cases item with
  | store item => exact driver.run_store transport item machine.1 machine.2
  | suspend => rw [step, program, Program.run_map, keep]
  | resume => rw [step, program, Program.run_map, keep]

theorem runSteps_fst (transport : HidTransport σ) (steps : List driver.Step)
    (machine : driver.Kept × σ) :
    (runSteps (driver.step transport) steps machine).1 =
      runSteps driver.keep steps machine.1 := by
  induction steps generalizing machine with
  | nil =>
      rfl
  | cons item rest inductionHypothesis =>
      rw [runSteps_cons, runSteps_cons, inductionHypothesis, step_fst]

/-- The reports of a step end with those that the device has to know. -/
theorem exists_transfers_program (transport : HidTransport σ)
    (item : driver.Step) (kept : driver.Kept) (state : σ) :
    ∃ before,
      transfers transport state (driver.program item kept) =
        (before ++ driver.shownAfter (driver.keep item kept) item).map
          featureReport := by
  cases item with
  | store item => exact ⟨[], driver.transfers_store transport item kept state⟩
  | suspend =>
      refine ⟨driver.offReports.dropLast, ?_⟩
      have sends := driver.transfers_suspend transport state
      have split : driver.offReports.dropLast ++
          driver.offReports.getLast?.toList = driver.offReports := by
        cases isLast : driver.offReports.getLast? with
        | none =>
            rw [List.getLast?_eq_none_iff.mp isLast]
            rfl
        | some last => exact List.dropLast_append_getLast? last isLast
      rw [shownAfter, split, ← sends]
      unfold program
      rw [transfers, transfers, Program.trace_map]
  | resume =>
      refine ⟨[], ?_⟩
      have sends := driver.transfers_resume transport kept state
      rw [shownAfter, keep, List.nil_append, ← sends]
      unfold program
      rw [transfers, transfers, Program.trace_map]

theorem distinct_shownAfter (item : driver.Step) (kept : driver.Kept) :
    ((driver.shownAfter kept item).map reportKey).Nodup := by
  have distinct := driver.distinct kept
  cases item with
  | store item =>
      rw [List.map_append] at distinct
      exact distinct.of_append_right
  | suspend =>
      unfold shownAfter
      cases driver.offReports.getLast? with
      | none => exact List.nodup_nil
      | some last => exact List.nodup_singleton _
  | resume => exact distinct

/-- After a step whose transfers are taken the device has been told what is
kept, whatever failed before. -/
theorem recovers (remembers : Remembers transport told)
    (steps : List driver.Step) (item : driver.Step) (state : σ)
    (taken :
      let before :=
        runSteps (driver.step transport) steps (driver.probed, state)
      AllTaken transport (driver.program item before.1) before.2) :
    let kept := runSteps driver.keep (steps ++ [item]) driver.probed
    let after :=
      runSteps (driver.step transport) (steps ++ [item])
        (driver.probed, state)
    after.1 = kept ∧
      ∀ buf ∈ driver.shownAfter kept item,
        told after.2 (reportKey buf) = some buf := by
  intro kept after
  have isKept : after.1 = kept :=
    runSteps_fst transport (steps ++ [item]) (driver.probed, state)
  refine ⟨isKept, fun buf member => ?_⟩
  let before := runSteps (driver.step transport) steps (driver.probed, state)
  have isAfter : after = driver.step transport item before :=
    runSteps_append (driver.step transport) steps [item] _
  have keeps : driver.keep item before.1 = kept := by
    rw [← isKept, isAfter, step_fst]
  obtain ⟨earlier, sends⟩ :=
    exists_transfers_program transport item before.1 before.2
  have told := told_of_allTaken remembers sends taken
  rw [keeps, Told.tellAll_append] at told
  rw [isAfter]
  have known := congrFun told (reportKey buf)
  rw [Told.tellAll_of_mem (distinct_shownAfter item kept) member] at known
  exact known

end LightDriver

end TuxedoDrivers.Ite
