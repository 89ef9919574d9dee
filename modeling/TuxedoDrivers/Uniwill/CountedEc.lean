import TuxedoDrivers.Uniwill.EcAccess

/-!
# An EC with failures of each register

Here how an access goes depends on the register and on how many accesses it
has had.  So every register goes its own way, and what a long operation does
to one of them does not depend on the failures of the others.
-/

namespace TuxedoDrivers.Uniwill

open Interaction

/-- A register with the number of its accesses so far. -/
structure Cell where
  content : U8
  accesses : Nat
  deriving DecidableEq, Repr

abbrev CountedRam : Type := U16 → Cell

/-- No access so far. -/
def freshRam (ram : Ram) : CountedRam :=
  fun address => ⟨ram address, 0⟩

namespace Cell

def afterRead (cell : Cell) : Cell :=
  { cell with accesses := cell.accesses + 1 }

def afterWrite (cell : Cell) (outcome : AccessOutcome) (data : U8) : Cell :=
  ⟨if outcome.takesEffect = true then data else cell.content,
    cell.accesses + 1⟩

end Cell

/-- The outcomes of the accesses to each register. -/
abbrev Outcomes : Type := U16 → Nat → AccessOutcome

def countedEc (outcomes : Outcomes) : EcDevice CountedRam where
  read address ram :=
    let outcome := outcomes address (ram address).accesses
    (if outcome.succeeds then .ok (ram address).content
      else .fail outcome.left,
      Function.update ram address (ram address).afterRead)
  write address data ram :=
    let outcome := outcomes address (ram address).accesses
    (if outcome.succeeds then .ok else .fail,
      Function.update ram address ((ram address).afterWrite outcome data))

section Device

variable {outcomes : Outcomes}

@[simp]
theorem countedEc_read_data (address : U16) (ram : CountedRam) :
    ((countedEc outcomes).read address ram).1.data =
      (outcomes address (ram address).accesses).shown
        (ram address).content := by
  simp only [countedEc, AccessOutcome.shown]
  split <;> rfl

@[simp]
theorem countedEc_read_after (address : U16) (ram : CountedRam) :
    ((countedEc outcomes).read address ram).2 =
      Function.update ram address (ram address).afterRead :=
  rfl

@[simp]
theorem countedEc_write_after (address : U16) (data : U8)
    (ram : CountedRam) :
    ((countedEc outcomes).write address data ram).2 =
      Function.update ram address
        ((ram address).afterWrite
          (outcomes address (ram address).accesses) data) :=
  rfl

theorem countedEc_read_succeeds_iff (outcomes : Outcomes)
    (address : U16) (ram : CountedRam) :
    ((countedEc outcomes).read address ram).1.status = 0 ↔
      (outcomes address (ram address).accesses).succeeds = true := by
  simp only [countedEc]
  split <;> simp_all

theorem countedEc_write_succeeds_iff (outcomes : Outcomes)
    (address : U16) (data : U8) (ram : CountedRam) :
    ((countedEc outcomes).write address data ram).1.status = 0 ↔
      (outcomes address (ram address).accesses).succeeds = true := by
  simp only [countedEc]
  split <;> simp_all

/-- A program that stays within some registers leaves the others as they
are. -/
theorem cell_of_within {α : Type} {registers : U16 → Prop}
    {program : Driver α} (asks : program.Asks (AccessWithin registers))
    (machine : Machine CountedRam) {address : U16}
    (outside : ¬ registers address) :
    ((countedEc outcomes).run program machine).2.2 address =
      machine.2 address := by
  refine
    asks.run_preserves (countedEc outcomes).environment
      (fun later : Machine CountedRam =>
        later.2 address = machine.2 address) ?_ rfl
  intro request later permitted unchanged
  have other : ∀ register, registers register → address ≠ register := by
    rintro register inside rfl
    exact outside inside
  cases request with
  | readEcRam register =>
      exact (Function.update_of_ne (other _ permitted) _ _).trans unchanged
  | writeEcRam register data =>
      exact (Function.update_of_ne (other _ permitted) _ _).trans unchanged
  | statics update =>
      exact permitted.elim

end Device

/-! ## Retried writes -/

/-- What the attempts of a verified write do to their register. -/
def attempted (outcomes : Nat → AccessOutcome) (data : U8) :
    Nat → Cell → Cell
  | 0, cell => cell
  | retries + 1, cell =>
      let outcome := outcomes cell.accesses
      let written := cell.afterWrite outcome data
      if outcome.succeeds = true then
        let control := outcomes written.accesses
        if control.succeeds = true ∧ written.content = data then
          written.afterRead
        else attempted outcomes data retries written.afterRead
      else attempted outcomes data retries written

/-- A read does not confirm a byte if it fails or finds another one. -/
theorem countedEc_unconfirmed_iff (outcomes : Outcomes) (address : U16)
    (data : U8) (ram : CountedRam) :
    (((countedEc outcomes).read address ram).1.status ≠ 0 ∨
        data ≠ ((countedEc outcomes).read address ram).1.data) ↔
      ¬ ((outcomes address (ram address).accesses).succeeds = true ∧
        (ram address).content = data) := by
  have read := countedEc_read_succeeds_iff outcomes address ram
  by_cases answered :
      (outcomes address (ram address).accesses).succeeds = true
  · have status : ¬ ((countedEc outcomes).read address ram).1.status ≠ 0 :=
      not_not_intro (read.mpr answered)
    rw [countedEc_read_data, AccessOutcome.shown, if_pos answered]
    constructor
    · rintro (failed | different) ⟨_, equal⟩
      · exact status failed
      · exact different equal.symm
    · intro unverified
      exact Or.inr fun equal => unverified ⟨answered, equal.symm⟩
  · exact
      iff_of_true (Or.inl (mt read.mp answered)) fun verified =>
        answered verified.1

theorem cell_writeAttempts {outcomes : Outcomes} (address : U16) (data : U8)
    (retries : Nat) (status : Int) {machine : Machine CountedRam}
    {cell : Cell} (here : machine.2 address = cell) :
    ((countedEc outcomes).run (writeAttempts address data retries status)
        machine).2.2 address =
      attempted (outcomes address) data retries cell := by
  induction retries generalizing status machine cell with
  | zero =>
      exact here
  | succ retries inductionHypothesis =>
      have write :=
        countedEc_write_succeeds_iff outcomes address data machine.2
      rw [here] at write
      let written := cell.afterWrite (outcomes address cell.accesses) data
      let ram := Function.update machine.2 address written
      have hereWritten : ram address = written :=
        Function.update_self _ _ _
      simp only [writeAttempts, run_bind, run_uniwillWriteEcRam,
        countedEc_write_after, attempted, here]
      by_cases succeeds : (outcomes address cell.accesses).succeeds = true
      · rw [if_neg (not_not_intro (write.mpr succeeds)), if_pos succeeds]
        have unconfirmed :=
          countedEc_unconfirmed_iff outcomes address data ram
        rw [hereWritten] at unconfirmed
        have hereRead :
            Function.update ram address (ram address).afterRead address =
              written.afterRead := by
          rw [hereWritten]
          exact Function.update_self _ _ _
        change
          ((countedEc outcomes).run (uniwillReadEcRam address >>= _)
            (machine.1, ram)).2.2 address = _
        rw [run_bind, run_uniwillReadEcRam]
        by_cases verified :
            (outcomes address written.accesses).succeeds = true ∧
              written.content = data
        · rw [if_neg (mt unconfirmed.mp (not_not_intro verified)),
            if_pos verified]
          exact hereRead
        · rw [if_pos (unconfirmed.mpr verified), if_neg verified]
          exact inductionHypothesis _ hereRead
      · rw [if_pos (mt write.mp succeeds), if_neg succeeds]
        exact inductionHypothesis _ hereWritten

theorem cell_uniwillWriteEcRamWithRetry {outcomes : Outcomes}
    (address : U16) (data : U8) (retries : Nat)
    (machine : Machine CountedRam) :
    ((countedEc outcomes).run (uniwillWriteEcRamWithRetry address data retries)
        machine).2.2 address =
      attempted (outcomes address) data retries (machine.2 address) :=
  cell_writeAttempts address data retries (-eio) rfl

/-- One of the attempts takes effect, where the first is this access and none
is made after one that is confirmed. -/
def AttemptTakesEffect (outcomes : Nat → AccessOutcome) :
    Nat → Nat → Prop
  | 0, _ => False
  | retries + 1, position =>
      (outcomes position).takesEffect = true ∨
        AttemptTakesEffect outcomes retries
          (if (outcomes position).succeeds = true then position + 2
          else position + 1)

instance decidableAttemptTakesEffect (outcomes : Nat → AccessOutcome) :
    ∀ retries position,
      Decidable (AttemptTakesEffect outcomes retries position)
  | 0, _ => inferInstanceAs (Decidable False)
  | retries + 1, position =>
      have := decidableAttemptTakesEffect outcomes retries
        (if (outcomes position).succeeds = true then position + 2
        else position + 1)
      inferInstanceAs (Decidable (_ ∨ _))

section Attempted

variable {outcomes : Nat → AccessOutcome} {data : U8}

theorem attempted_content_of_same (retries : Nat) {cell : Cell}
    (same : cell.content = data) :
    (attempted outcomes data retries cell).content = data := by
  induction retries generalizing cell with
  | zero =>
      exact same
  | succ retries inductionHypothesis =>
      have written :
          (cell.afterWrite (outcomes cell.accesses) data).content = data := by
        simp only [Cell.afterWrite, same, ite_self]
      simp only [attempted]
      split
      · split
        · exact written
        · exact inductionHypothesis written
      · exact inductionHypothesis written

/-- The register ends with the byte if it had it or an attempt takes
effect. -/
theorem attempted_content (retries : Nat) (cell : Cell) :
    (attempted outcomes data retries cell).content =
      if AttemptTakesEffect outcomes retries cell.accesses then data
      else cell.content := by
  induction retries generalizing cell with
  | zero =>
      rfl
  | succ retries inductionHypothesis =>
      by_cases same : cell.content = data
      · rw [attempted_content_of_same _ same, same, ite_self]
      · by_cases takesEffect :
            (outcomes cell.accesses).takesEffect = true
        · have written :
              (cell.afterWrite (outcomes cell.accesses) data).content =
                data :=
            if_pos takesEffect
          have effective :
              AttemptTakesEffect outcomes (retries + 1) cell.accesses :=
            Or.inl takesEffect
          rw [if_pos effective]
          simp only [attempted]
          split
          · split
            · exact written
            · exact attempted_content_of_same _ written
          · exact attempted_content_of_same _ written
        · have unwritten :
              (cell.afterWrite (outcomes cell.accesses) data).content =
                cell.content :=
            if_neg takesEffect
          simp only [attempted, AttemptTakesEffect, takesEffect,
            Bool.false_eq_true, false_or]
          by_cases succeeds : (outcomes cell.accesses).succeeds = true
          · rw [if_pos succeeds, if_neg, inductionHypothesis]
            · simp only [Cell.afterRead, unwritten, succeeds, if_true]
              rfl
            · rw [unwritten]
              exact fun verified => same verified.2
          · rw [if_neg succeeds, inductionHypothesis, unwritten]
            simp only [succeeds]
            rfl

end Attempted

end TuxedoDrivers.Uniwill
