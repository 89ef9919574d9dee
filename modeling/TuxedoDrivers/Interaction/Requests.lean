import TuxedoDrivers.Interaction.Program

/-!
# The requests of a run

A trace without its answers.  Where a loop asks the same requests whatever it
is answered, so does the whole loop, round after round.
-/

namespace Interaction

namespace Program

variable {S : Signature} {σ α β : Type}

/-- The requests a run asks, in order. -/
def requests (program : Program S α) (environment : Environment S σ)
    (state : σ) : List S.Request :=
  (program.trace environment state).map Event.request

section Requests

variable (environment : Environment S σ) (state : σ)

@[simp]
theorem requests_pure (value : α) :
    (pure value : Program S α).requests environment state = [] :=
  rfl

@[simp]
theorem requests_request (item : S.Request) :
    (request item).requests environment state = [item] :=
  rfl

@[simp]
theorem requests_bind (program : Program S α) (rest : α → Program S β) :
    (program >>= rest).requests environment state =
      program.requests environment state ++
        (rest (program.run environment state).1).requests environment
          (program.run environment state).2 := by
  simp only [requests, trace_bind, List.map_append]

theorem requests_forM {ι : Type} {body : ι → Program S PUnit}
    {each : ι → List S.Request}
    (round : ∀ item reached,
      (body item).requests environment reached = each item)
    (items : List ι) :
    (items.forM body).requests environment state = items.flatMap each := by
  induction items generalizing state with
  | nil =>
      rfl
  | cons head tail inductionHypothesis =>
      rw [List.forM_eq_forM, List.forM_cons, requests_bind, round,
        List.flatMap_cons]
      exact congrArg (each head ++ ·) (inductionHypothesis _)

variable {environment} {state} {allowed : S.Request → Prop}

theorem Asks.of_mem_requests {program : Program S α}
    (asks : program.Asks allowed) {item : S.Request}
    (member : item ∈ program.requests environment state) :
    allowed item := by
  obtain ⟨event, inTrace, rfl⟩ := List.mem_map.mp member
  exact asks.of_mem_trace inTrace

end Requests

end Program

end Interaction
