import TuxedoDrivers.Interaction.Program

/-!
# What holds at every point of a run

Something else can happen between two requests of a program.  A program runs
along an invariant if the invariant holds in every state that the run passes
through, and ends in a postcondition.
-/

namespace Interaction

namespace Program

variable {S : Signature} {α β σ : Type}

/-- The invariant holds before and after each request of the run, and the
postcondition of what the run ends with. -/
def Along (environment : Environment S σ) (invariant : σ → Prop)
    (post : α → σ → Prop) : Program S α → σ → Prop
  | .done value, state => invariant state ∧ post value state
  | .ask request next, state =>
      invariant state ∧
        (next (environment request state).1).Along environment invariant
          post (environment request state).2

variable {environment : Environment S σ} {invariant : σ → Prop}
  {post : α → σ → Prop} {state : σ}

theorem along_pure {value : α} (now : invariant state)
    (ends : post value state) :
    (pure value : Program S α).Along environment invariant post state :=
  ⟨now, ends⟩

theorem along_request (request : S.Request)
    {ends : S.Answer request → σ → Prop} (now : invariant state)
    (after : invariant (environment request state).2)
    (answered :
      ends (environment request state).1 (environment request state).2) :
    (Program.request request).Along environment invariant ends state :=
  ⟨now, after, answered⟩

theorem Along.bind {program : Program S α} {rest : α → Program S β}
    {middle : α → σ → Prop} {ends : β → σ → Prop}
    (first : program.Along environment invariant middle state)
    (second : ∀ value reached, invariant reached → middle value reached →
      (rest value).Along environment invariant ends reached) :
    (program >>= rest).Along environment invariant ends state := by
  change (program.bind rest).Along environment invariant ends state
  induction program generalizing state with
  | done value =>
      exact second value state first.1 first.2
  | ask request next inductionHypothesis =>
      exact ⟨first.1, inductionHypothesis _ first.2⟩

theorem Along.mono {program : Program S α} {ends : α → σ → Prop}
    {weaker : σ → Prop}
    (along : program.Along environment invariant post state)
    (implies : ∀ reached, invariant reached → weaker reached)
    (weakens : ∀ value reached, invariant reached → post value reached →
      ends value reached) :
    program.Along environment weaker ends state := by
  induction program generalizing state with
  | done value =>
      exact ⟨implies state along.1, weakens value state along.1 along.2⟩
  | ask request next inductionHypothesis =>
      exact ⟨implies state along.1, inductionHypothesis _ along.2⟩

theorem Along.run {program : Program S α}
    (along : program.Along environment invariant post state) :
    invariant (program.run environment state).2 ∧
      post (program.run environment state).1
        (program.run environment state).2 := by
  induction program generalizing state with
  | done value =>
      exact along
  | ask request next inductionHypothesis =>
      exact inductionHypothesis _ along.2

/-- What every allowed request preserves holds at every point. -/
theorem Asks.along {allowed : S.Request → Prop}
    (environment : Environment S σ) (invariant : σ → Prop)
    (step : ∀ request reached, allowed request → invariant reached →
      invariant (environment request reached).2)
    {program : Program S α} (asks : program.Asks allowed)
    (initially : invariant state) :
    program.Along environment invariant (fun _ _ => True) state := by
  induction program generalizing state with
  | done value =>
      exact ⟨initially, trivial⟩
  | ask request next inductionHypothesis =>
      exact
        ⟨initially, inductionHypothesis _ (asks.2 _)
          (step request state asks.1 initially)⟩

end Program

end Interaction
