import Mathlib.Algebra.GroupWithZero.Nat
import TuxedoDrivers.Interaction.Program

/-!
# Counting in a run

Every event of a run can be given a number, so that the sum over the trace
counts something: the acquisitions of a resource that succeeded, or its
releases.  A part of a program that asks nothing of the kind does not count.
-/

namespace Interaction

namespace Program

variable {S : Signature} {σ α β : Type}

/-- The sum over the events of a run. -/
def tally (weight : Event S → Nat) (environment : Environment S σ)
    (program : Program S α) (state : σ) : Nat :=
  ((program.trace environment state).map weight).sum

section Tally

variable (weight : Event S → Nat) (environment : Environment S σ) (state : σ)

@[simp]
theorem run_request (item : S.Request) :
    (request item).run environment state = environment item state :=
  rfl

@[simp]
theorem tally_pure (value : α) :
    (pure value : Program S α).tally weight environment state = 0 :=
  rfl

@[simp]
theorem tally_request (item : S.Request) :
    (request item).tally weight environment state =
      weight ⟨item, (environment item state).1⟩ :=
  Nat.add_zero _

@[simp]
theorem tally_bind (program : Program S α) (rest : α → Program S β) :
    (program >>= rest).tally weight environment state =
      program.tally weight environment state +
        (rest (program.run environment state).1).tally weight environment
          (program.run environment state).2 := by
  simp only [tally, trace_bind, List.map_append, List.sum_append]

theorem tally_ite (condition : Prop) [Decidable condition]
    (first second : Program S α) :
    (if condition then first else second).tally weight environment state =
      if condition then first.tally weight environment state
      else second.tally weight environment state := by
  split <;> rfl

/-- A loop counts what its rounds count. -/
theorem tally_forM {ι : Type} {body : ι → Program S PUnit}
    {each : ι → Nat}
    (round : ∀ item reached,
      (body item).tally weight environment reached = each item)
    (items : List ι) :
    (items.forM body).tally weight environment state =
      (items.map each).sum := by
  induction items generalizing state with
  | nil =>
      rfl
  | cons head tail inductionHypothesis =>
      rw [List.forM_eq_forM, List.forM_cons, tally_bind, round, List.map_cons,
        List.sum_cons]
      exact congrArg (each head + ·) (inductionHypothesis _)

variable {weight} {allowed : S.Request → Prop}

/-- What a program never asks for is not counted. -/
theorem Asks.tally_eq_zero {program : Program S α}
    (asks : program.Asks allowed)
    (uncounted : ∀ event, allowed event.request → weight event = 0) :
    program.tally weight environment state = 0 := by
  induction program generalizing state with
  | done value =>
      rfl
  | ask request next inductionHypothesis =>
      have first : weight ⟨request, (environment request state).1⟩ = 0 :=
        uncounted _ asks.1
      have rest := inductionHypothesis (environment request state).1
        (environment request state).2 (asks.2 _)
      rw [tally] at rest
      rw [tally, trace, List.map_cons, List.sum_cons, first, rest]

end Tally

end Program

end Interaction
