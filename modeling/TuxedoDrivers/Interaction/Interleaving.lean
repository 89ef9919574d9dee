import Mathlib.Logic.Function.Basic
import TuxedoDrivers.Interaction.Program

/-!
# Programs that run concurrently

Several programs share one environment, and a schedule says whose request is
answered next.  One request is one step, so this is every interleaving of the
requests.  The rule for invariants lets an observer follow the trace, which
is how a statement about some of the interleavings is made.
-/

namespace Interaction

/-- Programs with a common state, one for each thread. -/
structure Threads (S : Signature) (ι α σ : Type) where
  programs : ι → Program S α
  state : σ

namespace Threads

variable {S : Signature} {ι α σ : Type} [DecidableEq ι]
  (environment : Environment S σ)

/-- The next request of a thread, unless it is done. -/
def step (thread : ι) (threads : Threads S ι α σ) :
    Option (Event S × Threads S ι α σ) :=
  match threads.programs thread with
  | .done _ => none
  | .ask request next =>
      let answer := environment request threads.state
      some
        (⟨request, answer.1⟩,
          ⟨Function.update threads.programs thread (next answer.1),
            answer.2⟩)

/-- The threads after a schedule; the turn of a thread that is done is
skipped. -/
def run : List ι → Threads S ι α σ → Threads S ι α σ
  | [], threads => threads
  | thread :: rest, threads =>
      match threads.step environment thread with
      | none => run rest threads
      | some (_, after) => run rest after

def trace : List ι → Threads S ι α σ → List (ι × Event S)
  | [], _ => []
  | thread :: rest, threads =>
      match threads.step environment thread with
      | none => trace rest threads
      | some (event, after) => (thread, event) :: trace rest after

def Finished (threads : Threads S ι α σ) : Prop :=
  ∀ thread, ∃ value, threads.programs thread = .done value

variable {environment}

theorem step_of_done
    {threads : Threads S ι α σ} {thread : ι} {value : α}
    (done : threads.programs thread = .done value) :
    threads.step environment thread = none := by
  simp only [step, done]

theorem step_of_ask
    {threads : Threads S ι α σ} {thread : ι}
    {request : S.Request} {next : S.Answer request → Program S α}
    (asks : threads.programs thread = .ask request next) :
    threads.step environment thread =
      some
        (⟨request, (environment request threads.state).1⟩,
          ⟨Function.update threads.programs thread
              (next (environment request threads.state).1),
            (environment request threads.state).2⟩) := by
  simp only [step, asks]

theorem run_append (first second : List ι) (threads : Threads S ι α σ) :
    threads.run environment (first ++ second) =
      (threads.run environment first).run environment second := by
  induction first generalizing threads with
  | nil =>
      rfl
  | cons thread rest inductionHypothesis =>
      cases stepped : threads.step environment thread with
      | none =>
          simpa only [List.cons_append, run, stepped] using
            inductionHypothesis threads
      | some result =>
          simpa only [List.cons_append, run, stepped] using
            inductionHypothesis result.2

/-- Threads cannot tell a simulating environment from the simulated one. -/
theorem run_simulates {τ : Type} {relation : σ → τ → Prop}
    {abstracted : Environment S τ}
    (simulates : Program.Simulates relation environment abstracted)
    (schedule : List ι) (threads : Threads S ι α σ) (state : τ)
    (related : relation threads.state state) :
    (threads.run environment schedule).programs =
        ((Threads.mk threads.programs state).run abstracted
          schedule).programs ∧
      relation (threads.run environment schedule).state
        ((Threads.mk threads.programs state).run abstracted
          schedule).state := by
  induction schedule generalizing threads state with
  | nil =>
      exact ⟨rfl, related⟩
  | cons thread rest inductionHypothesis =>
      cases here : threads.programs thread with
      | done value =>
          have done : (Threads.mk threads.programs state).programs thread =
              .done value := here
          simp only [run, step_of_done here, step_of_done done]
          exact inductionHypothesis _ _ related
      | ask request next =>
          have asks : (Threads.mk threads.programs state).programs thread =
              .ask request next := here
          obtain ⟨sameAnswer, stillRelated⟩ :=
            simulates request threads.state state related
          simp only [run, step_of_ask here, step_of_ask asks]
          rw [← sameAnswer]
          exact inductionHypothesis _ _ stillRelated

/-- What every step that the observer lets pass preserves holds after every
schedule whose trace it lets pass. -/
theorem run_preserves
    {γ : Type} {observe : γ → ι × Event S → Option γ}
    (invariant : γ → Threads S ι α σ → Prop)
    (preserved :
      ∀ {seen seen' threads thread event after},
        threads.step environment thread = some (event, after) →
        observe seen (thread, event) = some seen' →
        invariant seen threads → invariant seen' after)
    (schedule : List ι) {threads : Threads S ι α σ} {seen seen' : γ}
    (observed :
      (threads.trace environment schedule).foldlM observe seen =
        some seen')
    (initially : invariant seen threads) :
    invariant seen' (threads.run environment schedule) := by
  induction schedule generalizing threads seen with
  | nil =>
      cases observed
      exact initially
  | cons thread rest inductionHypothesis =>
      cases stepped : threads.step environment thread with
      | none =>
          simp only [trace, stepped] at observed
          simpa only [run, stepped] using
            inductionHypothesis observed initially
      | some result =>
          obtain ⟨event, after⟩ := result
          simp only [trace, stepped, List.foldlM_cons] at observed
          obtain ⟨next, passed, later⟩ := Option.bind_eq_some_iff.mp observed
          simpa only [run, stepped] using
            inductionHypothesis later (preserved stepped passed initially)

end Threads

end Interaction
