import TuxedoDrivers.Interaction.RelyGuarantee

/-!
# Requests that stand for programs

A program can be written over large requests, such as the calls of another
component, and later be expanded: a program over smaller requests takes the
place of each.  Run without interruption it does what it did if every part
does what the environment did.  Since it guarantees what its parts guarantee,
an interleaving of the smaller requests can be taken into account as well.
-/

namespace Interaction

/-- The requests of two signatures. -/
abbrev Signature.sum (S T : Signature) : Signature where
  Request := S.Request ⊕ T.Request
  Answer
    | .inl request => S.Answer request
    | .inr request => T.Answer request

def Environment.sum {S T : Signature} {σ : Type} (first : Environment S σ)
    (second : Environment T σ) : Environment (S.sum T) σ
  | .inl request, state => first request state
  | .inr request, state => second request state

/-- An environment beside a state that it leaves alone. -/
def Environment.beside {T : Signature} (σ : Type) {τ : Type}
    (environment : Environment T τ) : Environment T (σ × τ) :=
  fun request state =>
    ((environment request state.2).1, state.1,
      (environment request state.2).2)

def Event.inl {S T : Signature} (event : Event S) : Event (S.sum T) :=
  ⟨.inl event.request, event.answer⟩

def Event.inr {S T : Signature} (event : Event T) : Event (S.sum T) :=
  ⟨.inr event.request, event.answer⟩

namespace Program

variable {S T : Signature} {α β : Type}

/-! ## Sums -/

/-- A program of the first signature. -/
def inl : Program S α → Program (S.sum T) α
  | .done value => .done value
  | .ask request next => .ask (.inl request) fun answer => (next answer).inl

/-- A program of the second signature. -/
def inr : Program T α → Program (S.sum T) α
  | .done value => .done value
  | .ask request next => .ask (.inr request) fun answer => (next answer).inr

section Sums

variable {σ : Type} (first : Environment S σ) (second : Environment T σ)
  (state : σ)

@[simp]
theorem run_inl (program : Program S α) :
    program.inl.run (first.sum second) state = program.run first state := by
  induction program generalizing state with
  | done value =>
      rfl
  | ask request next inductionHypothesis =>
      exact inductionHypothesis _ _

@[simp]
theorem run_inr (program : Program T α) :
    program.inr.run (first.sum second) state =
      program.run second state := by
  induction program generalizing state with
  | done value =>
      rfl
  | ask request next inductionHypothesis =>
      exact inductionHypothesis _ _

@[simp]
theorem trace_inl (program : Program S α) :
    program.inl.trace (first.sum second) state =
      (program.trace first state).map Event.inl := by
  induction program generalizing state with
  | done value =>
      rfl
  | ask request next inductionHypothesis =>
      exact congrArg (List.cons _) (inductionHypothesis _ _)

@[simp]
theorem trace_inr (program : Program T α) :
    program.inr.trace (first.sum second) state =
      (program.trace second state).map Event.inr := by
  induction program generalizing state with
  | done value =>
      rfl
  | ask request next inductionHypothesis =>
      exact congrArg (List.cons _) (inductionHypothesis _ _)

end Sums

section Beside

variable {σ τ : Type} (environment : Environment T τ) (state : σ × τ)

@[simp]
theorem run_beside (program : Program T α) :
    program.run (environment.beside σ) state =
      ((program.run environment state.2).1, state.1,
        (program.run environment state.2).2) := by
  induction program generalizing state with
  | done value =>
      rfl
  | ask request next inductionHypothesis =>
      exact inductionHypothesis _ _

@[simp]
theorem trace_beside (program : Program T α) :
    program.trace (environment.beside σ) state =
      program.trace environment state.2 := by
  induction program generalizing state with
  | done value =>
      rfl
  | ask request next inductionHypothesis =>
      exact congrArg (List.cons _) (inductionHypothesis _ _)

end Beside

/-! ## Expansion -/

section Expansion

variable (parts : (request : S.Request) → Program T (S.Answer request))

/-- Every request is replaced by its part. -/
def expand : Program S α → Program T α
  | .done value => .done value
  | .ask request next =>
      parts request >>= fun answer => (next answer).expand

theorem expand_bind (program : Program S α) (rest : α → Program S β) :
    (program >>= rest).expand parts =
      program.expand parts >>= fun value => (rest value).expand parts := by
  change (program.bind rest).expand parts = _
  induction program with
  | done value =>
      rfl
  | ask request next inductionHypothesis =>
      have later (answer : S.Answer request) :
          ((next answer).bind rest).expand parts =
            (next answer).expand parts >>=
              fun value => (rest value).expand parts :=
        inductionHypothesis answer
      simp only [bind, expand, later, bind_assoc]

variable {parts} {σ : Type} {concrete : Environment T σ}
  {abstracted : Environment S σ} {allowed : S.Request → Prop}
  {invariant : σ → Prop}

/-- Where the parts do what the environment does, so does the program. -/
theorem run_expand
    (does : ∀ request state, allowed request → invariant state →
      (parts request).run concrete state = abstracted request state)
    (keeps : ∀ request state, allowed request → invariant state →
      invariant (abstracted request state).2)
    {program : Program S α} (asks : program.Asks allowed) {state : σ}
    (initially : invariant state) :
    (program.expand parts).run concrete state =
        program.run abstracted state := by
  induction program generalizing state with
  | done value =>
      rfl
  | ask request next inductionHypothesis =>
      have first := does request state asks.1 initially
      rw [expand, run_bind, first]
      apply inductionHypothesis
      · exact asks.2 _
      · exact keeps request state asks.1 initially

end Expansion

/-! ## Notes -/

section Notes

variable (noted : Event S → Bool)

/-- The program also tells whether a request was a noted one. -/
def noting : Program S α → Program S (α × Bool)
  | .done value => .done (value, false)
  | .ask request next =>
      .ask request fun answer =>
        (fun result => (result.1, noted ⟨request, answer⟩ || result.2)) <$>
          (next answer).noting

theorem run_noting {σ : Type} (environment : Environment S σ)
    (program : Program S α) (state : σ) :
    (program.noting noted).run environment state =
      (((program.run environment state).1,
          (program.trace environment state).any noted),
        (program.run environment state).2) := by
  induction program generalizing state with
  | done value =>
      rfl
  | ask request next inductionHypothesis =>
      rw [noting, run, run_map, inductionHypothesis]
      rfl

end Notes

/-! ## Guarantees -/

section Guarantees

variable {rely : (request : S.Request) → S.Answer request → Prop}
  {guarantee : S.Request → Prop} {post : α → Prop}

/-- What a program guarantees it guarantees beside another signature. -/
theorem Guarantees.inl
    {shows : (request : (S.sum T).Request) →
      (S.sum T).Answer request → Prop}
    {keeps : (S.sum T).Request → Prop}
    (relies : ∀ request answer, shows (.inl request) answer →
      rely request answer)
    (guaranteed : ∀ request, guarantee request → keeps (.inl request))
    {program : Program S α}
    (guarantees : program.Guarantees rely guarantee post) :
    program.inl.Guarantees shows keeps post := by
  induction program with
  | done value =>
      exact guarantees
  | ask request next inductionHypothesis =>
      constructor
      · exact guaranteed request guarantees.1
      · intro answer relied
        exact
          inductionHypothesis answer
            (guarantees.2 answer (relies request answer relied))

theorem Guarantees.inr
    {shows : (request : (T.sum S).Request) →
      (T.sum S).Answer request → Prop}
    {keeps : (T.sum S).Request → Prop}
    (relies : ∀ request answer, shows (.inr request) answer →
      rely request answer)
    (guaranteed : ∀ request, guarantee request → keeps (.inr request))
    {program : Program S α}
    (guarantees : program.Guarantees rely guarantee post) :
    program.inr.Guarantees shows keeps post := by
  induction program with
  | done value =>
      exact guarantees
  | ask request next inductionHypothesis =>
      constructor
      · exact guaranteed request guarantees.1
      · intro answer relied
        exact
          inductionHypothesis answer
            (guarantees.2 answer (relies request answer relied))

theorem Guarantees.map {program : Program S α} (function : α → β)
    (guarantees : program.Guarantees rely guarantee post) :
    (function <$> program).Guarantees rely guarantee fun _ => True := by
  rw [map_eq_pure_bind]
  exact guarantees.bind fun _ _ => trivial

/-- The parts guarantee their requests when they ensure what the program
relies on. -/
theorem Guarantees.expand
    {parts : (request : S.Request) → Program T (S.Answer request)}
    {shows : (request : T.Request) → T.Answer request → Prop}
    {keeps : T.Request → Prop}
    (each : ∀ request, guarantee request →
      (parts request).Guarantees shows keeps (rely request))
    {program : Program S α}
    (guarantees : program.Guarantees rely guarantee post) :
    (program.expand parts).Guarantees shows keeps post := by
  induction program with
  | done value =>
      exact guarantees
  | ask request next inductionHypothesis =>
      have first := each request guarantees.1
      apply first.bind
      intro answer relied
      exact inductionHypothesis answer (guarantees.2 answer relied)

/-- A note does not change what is asked. -/
theorem Guarantees.noting (noted : Event S → Bool) {program : Program S α}
    (guarantees : program.Guarantees rely guarantee post) :
    (program.noting noted).Guarantees rely guarantee fun _ => True := by
  induction program with
  | done value =>
      trivial
  | ask request next inductionHypothesis =>
      constructor
      · exact guarantees.1
      · intro answer relied
        exact
          (inductionHypothesis answer (guarantees.2 answer relied)).map _

end Guarantees

end Program

end Interaction
