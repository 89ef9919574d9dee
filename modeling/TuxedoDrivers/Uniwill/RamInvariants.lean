import TuxedoDrivers.Interaction.RelyGuarantee
import TuxedoDrivers.Uniwill.EcAttributes

/-!
# Invariants of the EC RAM

What may stand in each register is an invariant of an EC that fails, if the
programs write nothing else there.  They may compute what they write from what
they read, which the invariant tells them about, whatever other programs do in
between.
-/

namespace TuxedoDrivers.Uniwill

open Interaction

section Invariants

variable (allowed : U16 → U8 → Prop) (known : DriverState → Prop)

/-- What can be relied on: a read that succeeds shows what may stand in the
register, and the variables are what is known of them. -/
def ShowsAllowed :
    (request : UniwillRequest) → request.Answer → Prop
  | .readEcRam address, outcome =>
      ∀ data, outcome = EcRead.ok data → allowed address data
  | .writeEcRam _ _, _ => True
  | .statics _, statics => known statics

def WritesAllowed : UniwillRequest → Prop
  | .readEcRam _ => True
  | .writeEcRam address data => allowed address data
  | .statics update => ∀ statics, known statics → known (update statics)

/-- Whatever it is answered of the above, the program keeps to the allowed
contents. -/
abbrev KeepsAllowed {α : Type} (post : α → Prop) (program : Driver α) :
    Prop :=
  program.Guarantees (S := uniwillSignature) (ShowsAllowed allowed known)
    (WritesAllowed allowed known) post

/-- Every register holds what it may. -/
def HoldsAllowed {σ : Type} (ram : σ → Ram) (machine : Machine σ) : Prop :=
  (∀ address, allowed address (ram machine.2 address)) ∧ known machine.1

variable {allowed known} {σ : Type} {device : EcDevice σ} {ram : σ → Ram}

theorem Truthful.upholds (truthful : Truthful device ram) :
    Upholds device.environment (HoldsAllowed allowed known ram)
      (ShowsAllowed allowed known) (WritesAllowed allowed known) where
  answers request machine invariant _ := by
    cases request with
    | readEcRam address =>
        intro data shown
        have isContent :=
          truthful.shows address machine.2 data shown
        rw [isContent]
        exact invariant.1 address
    | writeEcRam address data => trivial
    | statics update => exact invariant.2
  keeps request machine invariant guaranteed := by
    cases request with
    | readEcRam address =>
        refine ⟨fun other => ?_, invariant.2⟩
        have unchanged := truthful.keeps address machine.2
        change allowed other (ram (device.read address machine.2).2 other)
        rw [unchanged]
        exact invariant.1 other
    | writeEcRam address data =>
        refine ⟨fun other => ?_, invariant.2⟩
        change
          allowed other (ram (device.write address data machine.2).2 other)
        rcases truthful.storesOrNot address data machine.2 with
          unchanged | stored
        · rw [unchanged]
          exact invariant.1 other
        · rw [stored]
          by_cases here : other = address
          · subst here
            rw [Function.update_self]
            exact guaranteed
          · rw [Function.update_of_ne here]
            exact invariant.1 other
    | statics update =>
        exact ⟨invariant.1, guaranteed _ invariant.2⟩

theorem keepsAllowed_read (address : U16) :
    KeepsAllowed allowed known
      (fun outcome => ∀ data, outcome = .ok data → allowed address data)
      (uniwillReadEcRam address) :=
  ⟨trivial, fun _ shows => shows⟩

theorem keepsAllowed_write {address : U16} {data : U8}
    (isAllowed : allowed address data) :
    KeepsAllowed allowed known (fun _ => True)
      (uniwillWriteEcRam address data) :=
  ⟨isAllowed, fun _ _ => trivial⟩

theorem keepsAllowed_getStatics :
    KeepsAllowed allowed known known getStatics :=
  ⟨fun _ isKnown => isKnown, fun _ isKnown => isKnown⟩

theorem keepsAllowed_setStatics {update : DriverState → DriverState}
    (keeps : ∀ statics, known statics → known (update statics)) :
    KeepsAllowed allowed known (fun _ => True) (setStatics update) :=
  ⟨keeps, fun _ _ => trivial⟩

/-- Writes that are allowed whatever was read, and no variable. -/
theorem keepsAllowed_of_ecRequests {α : Type} {program : Driver α}
    {written : U16 → U8 → Prop}
    (asks : program.Asks (EcRequest written))
    (areAllowed : ∀ address data, written address data →
      allowed address data) :
    KeepsAllowed allowed known (fun _ => True) program := by
  apply Program.Asks.guarantees
  apply asks.mono
  intro request isAsked
  cases request with
  | readEcRam address => trivial
  | writeEcRam address data => exact areAllowed address data isAsked
  | statics update => exact isAsked.elim

/-- Writes to registers where all is allowed, and variables of which nothing
is known. -/
theorem keepsAllowed_of_confined {α β : Type} {program : Driver α}
    {registers : U16 → Prop} {view : DriverState → β}
    (asks : program.Asks (Confined registers view))
    (areAllowed : ∀ address data, registers address → allowed address data)
    (determines : ∀ first second, view first = view second →
      known second → known first) :
    KeepsAllowed allowed known (fun _ => True) program := by
  apply Program.Asks.guarantees
  apply asks.mono
  intro request isAsked
  cases request with
  | readEcRam address => trivial
  | writeEcRam address data => exact areAllowed address data isAsked
  | statics update =>
      intro statics isKnown
      exact determines _ _ (isAsked statics) isKnown

end Invariants

end TuxedoDrivers.Uniwill
