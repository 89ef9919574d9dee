import TuxedoDrivers.Interaction.Interleaving

/-!
# Threads with a part of the state to themselves

Threads may share a state although each has a part of it that is its own: its
requests are answered from that part, and the requests of the others leave
the part as it is.  Such a thread cannot tell when the others have their
turns.
-/

namespace Interaction

section Isolation

variable {S : Signature} {ι α σ : Type} {τ : ι → Type}
  {environment : Environment S σ} {owned : ι → S.Request → Prop}
  {part : (thread : ι) → σ → τ thread}

/-- The requests that a thread may make depend on its part and change no part
of another thread. -/
structure Isolates (environment : Environment S σ)
    (owned : ι → S.Request → Prop)
    (part : (thread : ι) → σ → τ thread) : Prop where
  answers : ∀ {thread request state view}, owned thread request →
    part thread state = part thread view →
    (environment request state).1 = (environment request view).1
  changes : ∀ {thread request state view}, owned thread request →
    part thread state = part thread view →
    part thread (environment request state).2 =
      part thread (environment request view).2
  keeps : ∀ {thread other request} (state), owned other request →
    other ≠ thread →
    part thread (environment request state).2 = part thread state

variable (isolates : Isolates environment owned part)

include isolates

/-- What a program makes of two states depends on the part it owns. -/
theorem Isolates.run_congr {thread : ι} {program : Program S α}
    (asks : program.Asks (owned thread)) {state view : σ}
    (same : part thread state = part thread view) :
    (program.run environment state).1 = (program.run environment view).1 ∧
      part thread (program.run environment state).2 =
        part thread (program.run environment view).2 := by
  induction program generalizing state view with
  | done value =>
      exact ⟨rfl, same⟩
  | ask request next inductionHypothesis =>
      have sameAnswer := isolates.answers asks.1 same
      have sameAfter := isolates.changes asks.1 same
      have later :=
        inductionHypothesis (environment request view).1 (asks.2 _) sameAfter
      simpa only [Program.run, sameAnswer] using later

/-- Whatever the schedule was, a thread that goes on alone ends as if it had
been alone from the beginning. -/
theorem Threads.run_isolated [DecidableEq ι] (threads : Threads S ι α σ)
    (asks : ∀ thread, (threads.programs thread).Asks (owned thread))
    (schedule : List ι) (thread : ι) :
    (((threads.run environment schedule).programs thread).run environment
          (threads.run environment schedule).state).1 =
        ((threads.programs thread).run environment threads.state).1 ∧
      part thread
          (((threads.run environment schedule).programs thread).run
            environment (threads.run environment schedule).state).2 =
        part thread
          ((threads.programs thread).run environment threads.state).2 := by
  induction schedule generalizing threads with
  | nil =>
      exact ⟨rfl, rfl⟩
  | cons turn rest inductionHypothesis =>
      cases here : threads.programs turn with
      | done value =>
          simp only [run, step_of_done here]
          exact inductionHypothesis threads asks
      | ask request next =>
          have own := asks turn
          rw [here] at own
          simp only [run, step_of_ask here]
          have asksAfter (other : ι) :
              (Function.update threads.programs turn
                (next (environment request threads.state).1) other).Asks
                  (owned other) := by
            by_cases same : other = turn
            · subst same
              rw [Function.update_self]
              exact own.2 _
            · rw [Function.update_of_ne same]
              exact asks other
          have later :=
            inductionHypothesis
              ⟨Function.update threads.programs turn
                  (next (environment request threads.state).1),
                (environment request threads.state).2⟩ asksAfter
          dsimp only at later
          by_cases same : thread = turn
          · subst same
            rw [here]
            rw [Function.update_self] at later
            exact later
          · rw [Function.update_of_ne same] at later
            have kept :=
              isolates.keeps threads.state own.1 (Ne.symm same)
            have alone := isolates.run_congr (asks thread) kept
            exact ⟨later.1.trans alone.1, later.2.trans alone.2⟩

end Isolation

end Interaction
