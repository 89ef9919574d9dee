import TuxedoDrivers.Interaction.Program

/-!
# Results under any answers

What a program can end with, whatever it is answered, together with the
requests it can ask on the way.
-/

namespace Interaction

namespace Program

variable {S : Signature} {α β : Type}

/-- Every request the program can ask is allowed and every value it can end
with is a result. -/
def Gives (allowed : S.Request → Prop) (result : α → Prop) :
    Program S α → Prop
  | .done value => result value
  | .ask request next =>
      allowed request ∧ ∀ answer, (next answer).Gives allowed result

variable {allowed : S.Request → Prop} {result : α → Prop}

theorem gives_pure {value : α} (valid : result value) :
    (pure value : Program S α).Gives allowed result :=
  valid

theorem Gives.bind {middle : β → Prop} {program : Program S β}
    {rest : β → Program S α}
    (first : program.Gives allowed middle)
    (second : ∀ value, middle value → (rest value).Gives allowed result) :
    (program >>= rest).Gives allowed result := by
  change (program.bind rest).Gives allowed result
  induction program with
  | done value =>
      exact second value first
  | ask request next inductionHypothesis =>
      exact
        ⟨first.1, fun answer =>
          inductionHypothesis answer (first.2 answer)⟩

theorem Gives.ite
    {condition : Prop} [Decidable condition]
    {first second : Program S α}
    (positive : condition → first.Gives allowed result)
    (negative : ¬ condition → second.Gives allowed result) :
    (if condition then first else second).Gives allowed result := by
  split
  · exact positive ‹_›
  · exact negative ‹_›

theorem Asks.gives {program : Program S α} (asks : program.Asks allowed) :
    program.Gives allowed fun _ => True := by
  induction program with
  | done value =>
      trivial
  | ask request next inductionHypothesis =>
      exact
        ⟨asks.1, fun answer => inductionHypothesis answer (asks.2 answer)⟩

/-- Requests whose answers do not matter, before a program that gives a
result. -/
theorem Gives.after {program : Program S β} {rest : β → Program S α}
    (asks : program.Asks allowed)
    (later : ∀ value, (rest value).Gives allowed result) :
    (program >>= rest).Gives allowed result :=
  asks.gives.bind fun value _ => later value

theorem Gives.asks {program : Program S α}
    (gives : program.Gives allowed result) : program.Asks allowed := by
  induction program with
  | done value =>
      trivial
  | ask request next inductionHypothesis =>
      exact
        ⟨gives.1, fun answer => inductionHypothesis answer (gives.2 answer)⟩

theorem Gives.run {program : Program S α}
    (gives : program.Gives allowed result)
    {σ : Type} (environment : Environment S σ) (state : σ) :
    result (program.run environment state).1 := by
  induction program generalizing state with
  | done value =>
      exact gives
  | ask request next inductionHypothesis =>
      exact inductionHypothesis _ (gives.2 _) _

end Program

end Interaction
