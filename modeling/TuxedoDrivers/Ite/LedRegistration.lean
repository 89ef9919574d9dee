import Mathlib.Data.List.FinRange
import TuxedoDrivers.Ite.ProbeRequests

/-!
# Registration of the LEDs of a keyboard

`register_leds` of `ite_8291` registers the LEDs row by row.  When one cannot
be registered, the loops that are to undo the registrations name the LED that
failed in every round.
-/

namespace TuxedoDrivers.Ite.Ite8291

open Interaction

/-! ## The loops of the driver -/

/-- The loops over `k` and `l`, whose body uses neither. -/
def undoLeds (i : Fin ite8291NrRows) (j : Fin ite8291LedsPerRowMax) :
    Probe Unit :=
  (List.range (i + 1)).forM fun _k =>
    (List.range (j + 1)).forM fun _l =>
      ask (.devmLedUnregister (.perkey i j))

/-- The columns that are left of a row. -/
def registerRow (i : Fin ite8291NrRows) :
    List (Fin ite8291LedsPerRowMax) → Probe Int
  | [] => pure 0
  | j :: rest => do
      let res ← ask (.devmLedRegister (.perkey i j))
      if res ≠ 0 then
        undoLeds i j
        return res
      else
        registerRow i rest

/-- The rows that are left. -/
def registerRows : List (Fin ite8291NrRows) → Probe Int
  | [] => pure 0
  | i :: rest => do
      let res ← registerRow i (List.finRange ite8291LedsPerRowMax)
      if res ≠ 0 then
        return res
      else
        registerRows rest

/-- What a LED is set up with is `registeredLed`. -/
def registerLeds : Probe Int :=
  registerRows (List.finRange ite8291NrRows)

def unregisterLeds : Probe Unit :=
  (List.finRange ite8291NrRows).forM fun i =>
    (List.finRange ite8291LedsPerRowMax).forM fun j =>
      ask (.devmLedUnregister (.perkey i j))

/-- The status; the data of the device is that of a successful call. -/
def ite8291PerkeyAdd : Probe Int := do
  let perkeyData ← ask (.devmKzalloc .deviceData)
  if perkeyData = false then
    return -enomem
  else
    let result ← registerLeds
    if result ≠ 0 then
      return result
    else
      return 0

/-! ## The LEDs in one loop -/

abbrev LedPosition : Type :=
  Fin ite8291NrRows × Fin ite8291LedsPerRowMax

/-- The order in which the LEDs are registered. -/
def Earlier (first second : LedPosition) : Prop :=
  first.1 < second.1 ∨ first.1 = second.1 ∧ first.2 < second.2

instance : DecidableRel Earlier := fun first second =>
  inferInstanceAs
    (Decidable
      (first.1 < second.1 ∨ first.1 = second.1 ∧ first.2 < second.2))

theorem Earlier.ne {first second : LedPosition}
    (earlier : Earlier first second) : first ≠ second := by
  rintro rfl
  rcases earlier with smaller | ⟨-, smaller⟩
  · exact Nat.lt_irrefl _ smaller
  · exact Nat.lt_irrefl _ smaller

theorem Earlier.asymm {first second : LedPosition}
    (earlier : Earlier first second) : ¬ Earlier second first := by
  simp only [Earlier, Fin.lt_def, Fin.ext_iff] at earlier ⊢
  omega

def ledPositions : List LedPosition :=
  (List.finRange ite8291NrRows).flatMap fun i =>
    (List.finRange ite8291LedsPerRowMax).map fun j => (i, j)

theorem mem_ledPositions (position : LedPosition) :
    position ∈ ledPositions := by
  simp [ledPositions]

theorem ledPositions_pairwise : ledPositions.Pairwise Earlier := by
  apply List.pairwise_flatMap.mpr
  constructor
  · intro i _
    apply List.pairwise_map.mpr
    exact (List.pairwise_lt_finRange _).imp fun smaller =>
      Or.inr ⟨rfl, smaller⟩
  · apply (List.pairwise_lt_finRange _).imp
    intro i i' smaller first inFirst second inSecond
    obtain ⟨j, -, rfl⟩ := List.mem_map.mp inFirst
    obtain ⟨j', -, rfl⟩ := List.mem_map.mp inSecond
    exact Or.inl smaller

/-- Registration of a list of LEDs. -/
def registerPositions : List LedPosition → Probe Int
  | [] => pure 0
  | (i, j) :: rest => do
      let res ← ask (.devmLedRegister (.perkey i j))
      if res ≠ 0 then
        undoLeds i j
        return res
      else
        registerPositions rest

theorem registerPositions_append (first second : List LedPosition) :
    registerPositions (first ++ second) =
      registerPositions first >>= fun res =>
        if res ≠ 0 then pure res else registerPositions second := by
  induction first with
  | nil =>
      rfl
  | cons position rest inductionHypothesis =>
      simp only [List.cons_append, registerPositions, bind_assoc]
      apply congrArg
      funext res
      by_cases failed : res ≠ 0
      · simp only [if_pos failed, bind_assoc, pure_bind]
      · simp only [if_neg failed]
        exact inductionHypothesis

theorem registerRow_eq (i : Fin ite8291NrRows)
    (columns : List (Fin ite8291LedsPerRowMax)) :
    registerRow i columns =
      registerPositions (columns.map fun j => (i, j)) := by
  induction columns with
  | nil =>
      rfl
  | cons j rest inductionHypothesis =>
      rw [registerRow, List.map_cons, registerPositions, inductionHypothesis]

theorem registerRows_eq (rows : List (Fin ite8291NrRows)) :
    registerRows rows =
      registerPositions (rows.flatMap fun i =>
        (List.finRange ite8291LedsPerRowMax).map fun j => (i, j)) := by
  induction rows with
  | nil =>
      rfl
  | cons i rest inductionHypothesis =>
      rw [registerRows, List.flatMap_cons, registerPositions_append,
        registerRow_eq, inductionHypothesis]

theorem registerLeds_eq : registerLeds = registerPositions ledPositions :=
  registerRows_eq _

/-! ## A registration that fails -/

section Registration

variable (outcomes : Outcomes) (weight : ProbeWeight) (count : Nat)

/-- Every round of the loops names the LED that failed. -/
theorem tally_undoLeds (i : Fin ite8291NrRows)
    (j : Fin ite8291LedsPerRowMax) :
    (undoLeds i j).tally weight outcomes.environment count =
      (i + 1) * ((j + 1) * weight ⟨.devmLedUnregister (.perkey i j), ()⟩) := by
  have round : ∀ _l reached : Nat,
      (ask (.devmLedUnregister (.perkey i j))).tally weight
          outcomes.environment reached =
        weight ⟨.devmLedUnregister (.perkey i j), ()⟩ :=
    fun _ reached =>
      Program.tally_request weight outcomes.environment reached _
  have rounds : ∀ _k reached : Nat,
      ((List.range (j + 1)).forM fun _l =>
          ask (.devmLedUnregister (.perkey i j))).tally weight
            outcomes.environment reached =
        (j + 1) * weight ⟨.devmLedUnregister (.perkey i j), ()⟩ := by
    intro _ reached
    rw [Program.tally_forM weight outcomes.environment reached round]
    simp
  rw [undoLeds, Program.tally_forM weight outcomes.environment count rounds]
  simp

/-- An attempt to register a LED. -/
def registerEvent (position : LedPosition) : Event probeSignature :=
  ⟨.devmLedRegister (.perkey position.1 position.2),
    outcomes.registered (.perkey position.1 position.2)⟩

theorem tally_registerPositions_cons (position : LedPosition)
    (rest : List LedPosition) :
    (registerPositions (position :: rest)).tally weight outcomes.environment
        count =
      weight (registerEvent outcomes position) +
        if outcomes.registered (.perkey position.1 position.2) ≠ 0 then
          (undoLeds position.1 position.2).tally weight outcomes.environment
            count
        else
          (registerPositions rest).tally weight outcomes.environment
            count := by
  have first : (ask (.devmLedRegister (.perkey position.1 position.2))).run
      outcomes.environment count =
        (outcomes.registered (.perkey position.1 position.2), count) := rfl
  rw [registerPositions, Program.tally_bind, first, Program.tally_ite,
    Program.tally_bind, Program.tally_pure, Nat.add_zero]
  rfl

variable {outcomes} {weight} {count}

/-- LEDs that are registered come before what is left. -/
theorem tally_registerPositions_append {before rest : List LedPosition}
    (registered : ∀ position ∈ before,
      outcomes.registered (.perkey position.1 position.2) = 0) :
    (registerPositions (before ++ rest)).tally weight outcomes.environment
        count =
      (before.map fun position =>
        weight (registerEvent outcomes position)).sum +
        (registerPositions rest).tally weight outcomes.environment count := by
  induction before with
  | nil =>
      exact (Nat.zero_add _).symm
  | cons position before inductionHypothesis =>
      have first := registered position List.mem_cons_self
      have later := inductionHypothesis fun other member =>
        registered other (List.mem_cons_of_mem position member)
      rw [List.cons_append, tally_registerPositions_cons, first,
        if_neg (fun nonzero => nonzero rfl), later, List.map_cons,
        List.sum_cons, Nat.add_assoc]

/-- A LED is registered as often as it stands in the list. -/
theorem sum_registrations {before : List LedPosition}
    (registered : ∀ position ∈ before,
      outcomes.registered (.perkey position.1 position.2) = 0)
    (position : LedPosition) :
    (before.map fun other =>
        registrations (.perkey position.1 position.2)
          (registerEvent outcomes other)).sum =
      before.count position := by
  induction before with
  | nil =>
      rfl
  | cons other before inductionHypothesis =>
      have first := registered other List.mem_cons_self
      have later := inductionHypothesis fun another member =>
        registered another (List.mem_cons_of_mem other member)
      have attempt : registrations (.perkey position.1 position.2)
          (registerEvent outcomes other) =
            if other = position then 1 else 0 := by
        simp [registrations, registerEvent, first, succeeded, Prod.ext_iff]
      rw [List.map_cons, List.sum_cons, attempt, later, List.count_cons,
        Nat.add_comm]
      simp

theorem sum_unregistrations (led : McLedId) (before : List LedPosition) :
    (before.map fun position =>
      unregistrations led (registerEvent outcomes position)).sum = 0 := by
  simp [unregistrations, registerEvent]

/-- The first LED that fails decides the result. -/
theorem run_registerPositions_append {before rest : List LedPosition}
    (registered : ∀ position ∈ before,
      outcomes.registered (.perkey position.1 position.2) = 0) :
    (registerPositions (before ++ rest)).run outcomes.environment count =
      (registerPositions rest).run outcomes.environment count := by
  induction before with
  | nil =>
      rfl
  | cons position before inductionHypothesis =>
      have first : (ask (.devmLedRegister
          (.perkey position.1 position.2))).run outcomes.environment count =
            (0, count) :=
        congrArg (·, count) (registered position List.mem_cons_self)
      have later := inductionHypothesis fun other member =>
        registered other (List.mem_cons_of_mem position member)
      rw [List.cons_append, registerPositions, Program.run_bind, first]
      exact later

end Registration

/-! ## What is rolled back -/

/-- The LED in this place is the first that cannot be registered. -/
structure FirstFailure (outcomes : Outcomes) (row : Fin ite8291NrRows)
    (column : Fin ite8291LedsPerRowMax) : Prop where
  earlier : ∀ position : LedPosition, Earlier position (row, column) →
    outcomes.registered (.perkey position.1 position.2) = 0
  fails : outcomes.registered (.perkey row column) ≠ 0

/-- The error is returned, and every LED is unregistered as often as it was
registered. -/
structure RollsBack (outcomes : Outcomes) (program : Probe Int)
    (error : Int) : Prop where
  returned : outcomes.result program = error
  undone : ∀ led,
    outcomes.count (unregistrations led) program =
      outcomes.count (registrations led) program

section Failure

variable {outcomes : Outcomes} {row : Fin ite8291NrRows}
  {column : Fin ite8291LedsPerRowMax}

/-- The LEDs before the one that fails are those that are registered. -/
theorem FirstFailure.split (failure : FirstFailure outcomes row column) :
    ∃ before after,
      ledPositions = before ++ (row, column) :: after ∧
        before.Nodup ∧
        (∀ position, position ∈ before ↔ Earlier position (row, column)) ∧
        ∀ position ∈ before,
          outcomes.registered (.perkey position.1 position.2) = 0 := by
  obtain ⟨before, after, positions⟩ :=
    List.append_of_mem (mem_ledPositions (row, column))
  have ordered := ledPositions_pairwise
  rw [positions] at ordered
  obtain ⟨orderedBefore, orderedAfter, isEarlier⟩ :=
    List.pairwise_append.mp ordered
  have memberIff : ∀ position,
      position ∈ before ↔ Earlier position (row, column) := by
    intro position
    constructor
    · intro member
      exact isEarlier position member (row, column) List.mem_cons_self
    · intro earlier
      have member := mem_ledPositions position
      rw [positions] at member
      rcases List.mem_append.mp member with inBefore | later
      · exact inBefore
      · rcases List.mem_cons.mp later with same | inAfter
        · exact absurd same earlier.ne
        · have reverse :=
            (List.pairwise_cons.mp orderedAfter).1 position inAfter
          exact absurd reverse earlier.asymm
  have distinct : before.Nodup := orderedBefore.imp Earlier.ne
  exact
    ⟨before, after, positions, distinct, memberIff, fun position member =>
      failure.earlier position ((memberIff position).mp member)⟩

theorem FirstFailure.result_registerLeds
    (failure : FirstFailure outcomes row column) :
    outcomes.result registerLeds =
      outcomes.registered (.perkey row column) := by
  obtain ⟨before, after, positions, -, -, registered⟩ := failure.split
  have first : (ask (.devmLedRegister (.perkey row column))).run
      outcomes.environment 0 =
        (outcomes.registered (.perkey row column), 0) := rfl
  rw [Outcomes.result, registerLeds_eq, positions,
    run_registerPositions_append registered, registerPositions,
    Program.run_bind, first, if_pos failure.fails, Program.run_bind]
  rfl

/-- The LEDs before the one that fails are registered once. -/
theorem FirstFailure.count_registrations
    (failure : FirstFailure outcomes row column) (position : LedPosition) :
    outcomes.count (registrations (.perkey position.1 position.2))
        registerLeds =
      if Earlier position (row, column) then 1 else 0 := by
  obtain ⟨before, after, positions, distinct, memberIff, registered⟩ :=
    failure.split
  have attempt : registrations (.perkey position.1 position.2)
      (registerEvent outcomes (row, column)) = 0 := by
    simp [registrations, registerEvent, succeeded, failure.fails]
  rw [Outcomes.count, registerLeds_eq, positions,
    tally_registerPositions_append registered, sum_registrations registered,
    tally_registerPositions_cons, if_pos failure.fails, tally_undoLeds,
    attempt]
  by_cases earlier : Earlier position (row, column)
  · rw [if_pos earlier,
      List.count_eq_one_of_mem distinct ((memberIff position).mpr earlier)]
    rfl
  · rw [if_neg earlier, List.count_eq_zero_of_not_mem fun member =>
      earlier ((memberIff position).mp member)]
    rfl

/-- Only the LED that fails is unregistered. -/
theorem FirstFailure.count_unregistrations
    (failure : FirstFailure outcomes row column) (position : LedPosition) :
    outcomes.count (unregistrations (.perkey position.1 position.2))
        registerLeds =
      if (row, column) = position then
        ((row : Nat) + 1) * ((column : Nat) + 1) else 0 := by
  obtain ⟨before, after, positions, -, -, registered⟩ := failure.split
  rw [Outcomes.count, registerLeds_eq, positions,
    tally_registerPositions_append registered, sum_unregistrations,
    tally_registerPositions_cons, if_pos failure.fails, tally_undoLeds]
  by_cases same : (row, column) = position
  · simp [unregistrations, registerEvent, ← same]
  · have other : ¬ (row = position.1 ∧ column = position.2) := fun equal =>
      same (Prod.ext equal.1 equal.2)
    simp [unregistrations, registerEvent, same, other]

theorem count_ite8291PerkeyAdd {weight : ProbeWeight}
    (allocated : outcomes.allocated .deviceData = true)
    (uncounted : ∀ answer, weight ⟨.devmKzalloc .deviceData, answer⟩ = 0) :
    outcomes.count weight ite8291PerkeyAdd =
      outcomes.count weight registerLeds := by
  have first : (ask (.devmKzalloc .deviceData)).run outcomes.environment 0 =
      (true, 0) := congrArg (·, 0) allocated
  have counted : (ask (.devmKzalloc .deviceData)).tally weight
      outcomes.environment 0 = 0 :=
    uncounted (outcomes.allocated .deviceData)
  rw [Outcomes.count, ite8291PerkeyAdd, Program.tally_bind, first, counted,
    if_neg (by decide), Nat.zero_add, Program.tally_bind,
    Program.tally_ite, Program.tally_pure, Program.tally_pure, ite_self]
  rfl

/-- Wherever the registration fails first, it is not rolled back. -/
theorem firstFailure_not_rollsBack (outcomes : Outcomes)
    (row : Fin ite8291NrRows) (column : Fin ite8291LedsPerRowMax)
    (allocated : outcomes.allocated .deviceData = true)
    (failure : FirstFailure outcomes row column) :
    ¬ RollsBack outcomes registerLeds
        (outcomes.registered (.perkey row column)) ∧
      ¬ RollsBack outcomes ite8291PerkeyAdd
        (outcomes.registered (.perkey row column)) := by
  have notRegistered := failure.count_registrations (row, column)
  have unregistered := failure.count_unregistrations (row, column)
  rw [if_neg fun earlier => earlier.ne rfl] at notRegistered
  rw [if_pos rfl] at unregistered
  have notUndone :
      outcomes.count (unregistrations (.perkey row column)) registerLeds ≠
        outcomes.count (registrations (.perkey row column)) registerLeds := by
    rw [notRegistered, unregistered]
    exact Nat.succ_ne_zero _
  constructor
  · intro rollsBack
    exact notUndone (rollsBack.undone (.perkey row column))
  · intro rollsBack
    have undone := rollsBack.undone (.perkey row column)
    rw [count_ite8291PerkeyAdd allocated fun _ => rfl,
      count_ite8291PerkeyAdd allocated fun _ => rfl] at undone
    exact notUndone undone

end Failure

/-- All steps succeed but for the registration of one LED. -/
def failingAt (row : Fin ite8291NrRows)
    (column : Fin ite8291LedsPerRowMax) : Outcomes where
  parse := 0
  start := 0
  opening := 0
  allocated := fun _ => true
  registered := fun led => if led = .perkey row column then -enomem else 0
  classRegistered := fun _ => 0
  group := 0
  transferred := fun _ => 8

theorem firstFailure_failingAt (row : Fin ite8291NrRows)
    (column : Fin ite8291LedsPerRowMax) :
    FirstFailure (failingAt row column) row column where
  earlier := by
    intro position earlier
    apply if_neg
    intro same
    injection same with sameRow sameColumn
    rcases earlier with smaller | ⟨-, smaller⟩
    · exact absurd sameRow (Fin.ne_of_lt smaller)
    · exact absurd sameColumn (Fin.ne_of_lt smaller)
  fails := by
    have failed : (failingAt row column).registered (.perkey row column) =
        -enomem := if_pos rfl
    rw [failed]
    decide

theorem firstFailure_not_rollsBack_second_row :
    ¬ RollsBack (failingAt 1 2) registerLeds
        ((failingAt 1 2).registered (.perkey 1 2)) ∧
      ¬ RollsBack (failingAt 1 2) ite8291PerkeyAdd
        ((failingAt 1 2).registered (.perkey 1 2)) :=
  firstFailure_not_rollsBack (failingAt 1 2) 1 2 rfl
    (firstFailure_failingAt 1 2)

/-- The LED that failed is unregistered six times, and the first LED stays
registered. -/
theorem third_led_of_second_row_fails :
    ¬ RollsBack (failingAt 1 2) registerLeds (-enomem) ∧
      (failingAt 1 2).count (unregistrations (.perkey 1 2)) registerLeds =
        6 ∧
      (failingAt 1 2).count (registrations (.perkey 0 0)) registerLeds = 1 ∧
      (failingAt 1 2).count (unregistrations (.perkey 0 0)) registerLeds =
        0 := by
  refine ⟨fun rollsBack => ?_, by decide +kernel, by decide +kernel,
    by decide +kernel⟩
  exact absurd (rollsBack.undone (.perkey 0 0)) (by decide +kernel)

/-- The removal unregisters every LED once. -/
theorem count_unregisterLeds (outcomes : Outcomes) (position : LedPosition) :
    outcomes.count (unregistrations (.perkey position.1 position.2))
      unregisterLeds = 1 := by
  obtain ⟨row, column⟩ := position
  have each : ∀ (i : Fin ite8291NrRows) (j : Fin ite8291LedsPerRowMax)
      (reached : Nat),
      (ask (.devmLedUnregister (.perkey i j))).tally
          (unregistrations (.perkey row column)) outcomes.environment
          reached =
        if McLedId.perkey i j = .perkey row column then 1 else 0 :=
    fun i j reached => Program.tally_request _ _ _ _
  have eachRow : ∀ (i : Fin ite8291NrRows) (reached : Nat),
      ((List.finRange ite8291LedsPerRowMax).forM fun j =>
          ask (.devmLedUnregister (.perkey i j))).tally
          (unregistrations (.perkey row column)) outcomes.environment
          reached =
        if i = row then 1 else 0 := by
    intro i reached
    rw [Program.tally_forM _ _ _ (each i)]
    by_cases same : i = row
    · have columns : ∀ column : Fin ite8291LedsPerRowMax,
          ((List.finRange ite8291LedsPerRowMax).map fun j =>
            if j = column then 1 else 0).sum = 1 := by decide
      simpa [same] using columns column
    · simp [same]
  have rows : ∀ row : Fin ite8291NrRows,
      ((List.finRange ite8291NrRows).map fun i =>
        if i = row then 1 else 0).sum = 1 := by decide
  rw [Outcomes.count, unregisterLeds, Program.tally_forM _ _ _ eachRow]
  exact rows row

end TuxedoDrivers.Ite.Ite8291
