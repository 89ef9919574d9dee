import Mathlib.Order.Basic
import Mathlib.Tactic.Common

/-!
# Programs that ask requests of an environment

A program over a signature is a finite-depth tree: it is done, or it asks one
request and continues with the answer.  The same program can be run against
any environment, so a statement about every environment is a statement about
every sequence of answers, the failing and the inconsistent ones included.

The trace of a run lists the requests asked together with their answers.  The
predicate `Asks` bounds the requests a program can ask whatever it is
answered, which gives the frame rule of this library.
-/

namespace Interaction

/-- The requests a program may ask and the type of the answer to each. -/
structure Signature where
  Request : Type
  Answer : Request → Type

/-- A request together with the answer it was given. -/
structure Event (S : Signature) where
  request : S.Request
  answer : S.Answer request

inductive Program (S : Signature) (α : Type) : Type where
  | done (value : α)
  | ask (request : S.Request) (next : S.Answer request → Program S α)

/-- An environment answers each request and moves to its next state. -/
abbrev Environment (S : Signature) (σ : Type) : Type :=
  (request : S.Request) → σ → S.Answer request × σ

namespace Program

variable {S : Signature} {α β : Type}

def bind : Program S α → (α → Program S β) → Program S β
  | .done value, rest => rest value
  | .ask request next, rest =>
      .ask request fun answer => (next answer).bind rest

instance : Monad (Program S) where
  pure := .done
  bind := bind

/-- The program that asks one request and returns its answer. -/
def request (request : S.Request) : Program S (S.Answer request) :=
  .ask request .done

private theorem bind_done (program : Program S α) :
    program.bind .done = program := by
  induction program with
  | done value =>
      rfl
  | ask request next inductionHypothesis =>
      exact congrArg (Program.ask request) (funext inductionHypothesis)

private theorem bind_bind {γ : Type}
    (program : Program S α)
    (first : α → Program S β) (second : β → Program S γ) :
    (program.bind first).bind second =
      program.bind fun value => (first value).bind second := by
  induction program with
  | done value =>
      rfl
  | ask request next inductionHypothesis =>
      exact congrArg (Program.ask request) (funext inductionHypothesis)

instance : LawfulMonad (Program S) :=
  LawfulMonad.mk' (Program S) bind_done (fun _ _ => rfl) bind_bind

/-! ## Runs and traces -/

section Run

variable {σ : Type} (environment : Environment S σ)

def run : Program S α → σ → α × σ
  | .done value, state => (value, state)
  | .ask request next, state =>
      (next (environment request state).1).run (environment request state).2

def trace : Program S α → σ → List (Event S)
  | .done _, _ => []
  | .ask request next, state =>
      ⟨request, (environment request state).1⟩ ::
        (next (environment request state).1).trace
          (environment request state).2

@[simp]
theorem run_pure (value : α) (state : σ) :
    (pure value : Program S α).run environment state = (value, state) :=
  (rfl)

@[simp]
theorem trace_pure (value : α) (state : σ) :
    (pure value : Program S α).trace environment state = [] :=
  (rfl)

@[simp]
theorem run_bind
    (program : Program S α) (rest : α → Program S β) (state : σ) :
    (program >>= rest).run environment state =
      (rest (program.run environment state).1).run environment
        (program.run environment state).2 := by
  change (program.bind rest).run environment state = _
  induction program generalizing state with
  | done value =>
      rfl
  | ask request next inductionHypothesis =>
      exact inductionHypothesis _ _

@[simp]
theorem trace_bind
    (program : Program S α) (rest : α → Program S β) (state : σ) :
    (program >>= rest).trace environment state =
      program.trace environment state ++
        (rest (program.run environment state).1).trace environment
          (program.run environment state).2 := by
  change (program.bind rest).trace environment state = _
  induction program generalizing state with
  | done value =>
      rfl
  | ask request next inductionHypothesis =>
      exact congrArg (List.cons _) (inductionHypothesis _ _)

@[simp]
theorem run_map (function : α → β) (program : Program S α) (state : σ) :
    (function <$> program).run environment state =
      (function (program.run environment state).1,
        (program.run environment state).2) := by
  rw [map_eq_pure_bind, run_bind, run_pure]

@[simp]
theorem trace_map (function : α → β) (program : Program S α) (state : σ) :
    (function <$> program).trace environment state =
      program.trace environment state := by
  rw [map_eq_pure_bind, trace_bind, trace_pure, List.append_nil]

@[simp]
theorem run_ite
    (condition : Prop) [Decidable condition]
    (first second : Program S α) (state : σ) :
    (if condition then first else second).run environment state =
      if condition then first.run environment state
      else second.run environment state := by
  split <;> rfl

@[simp]
theorem trace_ite
    (condition : Prop) [Decidable condition]
    (first second : Program S α) (state : σ) :
    (if condition then first else second).trace environment state =
      if condition then first.trace environment state
      else second.trace environment state := by
  split <;> rfl

end Run

/-! ## The requests a program can ask -/

/-- Every request the program can ask, under any answers, is allowed. -/
def Asks (allowed : S.Request → Prop) : Program S α → Prop
  | .done _ => True
  | .ask request next =>
      allowed request ∧ ∀ answer, (next answer).Asks allowed

section Asks

variable {allowed : S.Request → Prop}

@[simp]
theorem asks_pure (value : α) :
    (pure value : Program S α).Asks allowed :=
  trivial

theorem asks_any (program : Program S α) :
    program.Asks fun _ => True := by
  induction program with
  | done value =>
      trivial
  | ask request next inductionHypothesis =>
      exact ⟨trivial, inductionHypothesis⟩

theorem Asks.bind
    {program : Program S α} {rest : α → Program S β}
    (first : program.Asks allowed)
    (second : ∀ value, (rest value).Asks allowed) :
    (program >>= rest).Asks allowed := by
  change (program.bind rest).Asks allowed
  induction program with
  | done value =>
      exact second value
  | ask request next inductionHypothesis =>
      exact
        ⟨first.1, fun answer =>
          inductionHypothesis answer (first.2 answer)⟩

theorem Asks.ite
    {condition : Prop} [Decidable condition]
    {first second : Program S α}
    (positive : condition → first.Asks allowed)
    (negative : ¬ condition → second.Asks allowed) :
    (if condition then first else second).Asks allowed := by
  split
  · exact positive ‹_›
  · exact negative ‹_›

theorem Asks.map
    {program : Program S α} (function : α → β)
    (asks : program.Asks allowed) :
    (function <$> program).Asks allowed := by
  rw [map_eq_pure_bind]
  exact asks.bind fun _ => trivial

theorem Asks.forM
    {γ : Type} {items : List γ} {body : γ → Program S PUnit}
    (each : ∀ item ∈ items, (body item).Asks allowed) :
    (items.forM body).Asks allowed := by
  induction items with
  | nil =>
      trivial
  | cons head tail inductionHypothesis =>
      refine Asks.bind (each head List.mem_cons_self) ?_
      intro _
      exact
        inductionHypothesis fun item member =>
          each item (List.mem_cons_of_mem head member)

theorem Asks.mono {wider : S.Request → Prop}
    (implies : ∀ request, allowed request → wider request)
    {program : Program S α} (asks : program.Asks allowed) :
    program.Asks wider := by
  induction program with
  | done value =>
      trivial
  | ask request next inductionHypothesis =>
      exact
        ⟨implies request asks.1, fun answer =>
          inductionHypothesis answer (asks.2 answer)⟩

variable {σ : Type} {environment : Environment S σ}

/-- Frame rule: what every allowed request preserves, the run preserves. -/
theorem Asks.run_preserves
    (environment : Environment S σ) (invariant : σ → Prop)
    (step : ∀ request state, allowed request → invariant state →
      invariant (environment request state).2)
    {program : Program S α} (asks : program.Asks allowed)
    {state : σ} (initially : invariant state) :
    invariant (program.run environment state).2 := by
  induction program generalizing state with
  | done value =>
      exact initially
  | ask request next inductionHypothesis =>
      exact
        inductionHypothesis _ (asks.2 _)
          (step request state asks.1 initially)

/-- Every event of a run is about an allowed request. -/
theorem Asks.of_mem_trace
    {program : Program S α} (asks : program.Asks allowed)
    {state : σ} {event : Event S}
    (member : event ∈ program.trace environment state) :
    allowed event.request := by
  induction program generalizing state with
  | done value =>
      simp [trace] at member
  | ask request next inductionHypothesis =>
      rcases List.mem_cons.mp member with rfl | later
      · exact asks.1
      · exact inductionHypothesis _ (asks.2 _) later

end Asks

/-! ## Simulation -/

section Simulation

variable {σ τ : Type}

/-- Two environments that answer every request alike and stay related. -/
def Simulates
    (relation : σ → τ → Prop)
    (concrete : Environment S σ) (abstracted : Environment S τ) : Prop :=
  ∀ request state view, relation state view →
    (concrete request state).1 = (abstracted request view).1 ∧
      relation (concrete request state).2 (abstracted request view).2

variable {relation : σ → τ → Prop}
  {concrete : Environment S σ} {abstracted : Environment S τ}

/-- A program cannot tell a simulating environment from the simulated
one. -/
theorem Simulates.run
    (simulates : Simulates relation concrete abstracted)
    (program : Program S α) {state : σ} {view : τ}
    (related : relation state view) :
    (program.run concrete state).1 = (program.run abstracted view).1 ∧
      relation (program.run concrete state).2
        (program.run abstracted view).2 := by
  induction program generalizing state view with
  | done value =>
      exact ⟨rfl, related⟩
  | ask request next inductionHypothesis =>
      obtain ⟨sameAnswer, stillRelated⟩ :=
        simulates request state view related
      have later :=
        inductionHypothesis (abstracted request view).1 stillRelated
      simpa only [Program.run, sameAnswer] using later

end Simulation

end Program

end Interaction
