import TuxedoDrivers.Interaction.Interleaving

/-!
# Programs that rely on each other

Programs that share an environment can keep an invariant of it together.
Each relies on what the invariant says of an answer and guarantees requests
that keep it, so the requests of the others may come in between.
-/

namespace Interaction

namespace Program

variable {S : Signature} {α β : Type}
  {rely : (request : S.Request) → S.Answer request → Prop}
  {guarantee : S.Request → Prop}

/-- While the answers are what is relied on, every request is a guaranteed
one, and `post` holds of the result. -/
def Guarantees (rely : (request : S.Request) → S.Answer request → Prop)
    (guarantee : S.Request → Prop) (post : α → Prop) : Program S α → Prop
  | .done value => post value
  | .ask request next =>
      guarantee request ∧
        ∀ answer, rely request answer →
          Guarantees rely guarantee post (next answer)

theorem Guarantees.bind {program : Program S α} {rest : α → Program S β}
    {middle : α → Prop} {post : β → Prop}
    (first : program.Guarantees rely guarantee middle)
    (second : ∀ value, middle value →
      (rest value).Guarantees rely guarantee post) :
    (program >>= rest).Guarantees rely guarantee post := by
  induction program with
  | done value =>
      exact second value first
  | ask request next inductionHypothesis =>
      constructor
      · exact first.1
      · intro answer relied
        exact inductionHypothesis answer (first.2 answer relied)

theorem Guarantees.ite {condition : Prop} [Decidable condition]
    {first second : Program S α} {post : α → Prop}
    (ifTrue : condition → first.Guarantees rely guarantee post)
    (ifFalse : ¬ condition → second.Guarantees rely guarantee post) :
    (if condition then first else second).Guarantees rely guarantee post := by
  by_cases holds : condition
  · rw [if_pos holds]
    exact ifTrue holds
  · rw [if_neg holds]
    exact ifFalse holds

theorem Guarantees.forM {ι : Type} {body : ι → Program S PUnit}
    (each : ∀ item,
      (body item).Guarantees rely guarantee fun _ => True)
    (items : List ι) :
    (items.forM body).Guarantees rely guarantee fun _ => True := by
  induction items with
  | nil =>
      trivial
  | cons item rest inductionHypothesis =>
      rw [List.forM_eq_forM, List.forM_cons]
      exact (each item).bind fun _ _ => inductionHypothesis

/-- A program that is bounded whatever it is answered relies on nothing. -/
theorem Asks.guarantees {program : Program S α}
    (asks : program.Asks guarantee) :
    program.Guarantees rely guarantee fun _ => True := by
  induction program with
  | done value =>
      trivial
  | ask request next inductionHypothesis =>
      constructor
      · exact asks.1
      · intro answer _
        exact inductionHypothesis answer (asks.2 answer)

end Program

/-- While the requests are guaranteed ones, the invariant is kept and the
answers are what is relied on. -/
structure Upholds {S : Signature} {σ : Type} (environment : Environment S σ)
    (invariant : σ → Prop)
    (rely : (request : S.Request) → S.Answer request → Prop)
    (guarantee : S.Request → Prop) : Prop where
  answers : ∀ request state, invariant state → guarantee request →
    rely request (environment request state).1
  keeps : ∀ request state, invariant state → guarantee request →
    invariant (environment request state).2

section Upholds

variable {S : Signature} {σ α : Type} {environment : Environment S σ}
  {invariant : σ → Prop}
  {rely : (request : S.Request) → S.Answer request → Prop}
  {guarantee : S.Request → Prop}
  (upholds : Upholds environment invariant rely guarantee)

include upholds

theorem Program.Guarantees.run {program : Program S α} {post : α → Prop}
    (guarantees : program.Guarantees rely guarantee post) {state : σ}
    (initially : invariant state) :
    post (program.run environment state).1 ∧
      invariant (program.run environment state).2 := by
  induction program generalizing state with
  | done value =>
      exact ⟨guarantees, initially⟩
  | ask request next inductionHypothesis =>
      have relied := upholds.answers request state initially guarantees.1
      exact
        inductionHypothesis _ (guarantees.2 _ relied)
          (upholds.keeps request state initially guarantees.1)

/-- The threads keep the invariant whatever the schedule, and each of them
still guarantees what it did. -/
theorem Threads.run_guarantees {ι : Type} [DecidableEq ι]
    {post : ι → α → Prop} (threads : Threads S ι α σ)
    (initially : invariant threads.state)
    (guarantees : ∀ thread,
      (threads.programs thread).Guarantees rely guarantee (post thread))
    (schedule : List ι) :
    invariant (threads.run environment schedule).state ∧
      ∀ thread,
        ((threads.run environment schedule).programs thread).Guarantees rely
          guarantee (post thread) := by
  induction schedule generalizing threads with
  | nil =>
      exact ⟨initially, guarantees⟩
  | cons thread rest inductionHypothesis =>
      cases here : threads.programs thread with
      | done value =>
          simp only [run, step_of_done here]
          exact inductionHypothesis threads initially guarantees
      | ask request next =>
          have own := guarantees thread
          rw [here] at own
          have relied :=
            upholds.answers request threads.state initially own.1
          simp only [run, step_of_ask here]
          apply inductionHypothesis
          · exact upholds.keeps request threads.state initially own.1
          · intro other
            dsimp only
            by_cases same : other = thread
            · subst same
              rw [Function.update_self]
              exact own.2 _ relied
            · rw [Function.update_of_ne same]
              exact guarantees other

end Upholds

end Interaction
