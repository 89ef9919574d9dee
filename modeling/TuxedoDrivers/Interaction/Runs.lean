import Mathlib.Data.List.Infix

/-!
# Runs of a state machine

A run is a list of steps taken one after the other.  A property of states
can hold in every state a run reaches, and a condition can be met by every
step in the state the step finds.  Where a step keeps the property exactly
when it meets the condition, a whole run does.
-/

namespace Interaction

section Runs

variable {σ ι : Type} (step : ι → σ → σ)

def runSteps (steps : List ι) (state : σ) : σ :=
  steps.foldl (fun reached item => step item reached) state

@[simp]
theorem runSteps_nil (state : σ) : runSteps step [] state = state :=
  rfl

@[simp]
theorem runSteps_cons (item : ι) (rest : List ι) (state : σ) :
    runSteps step (item :: rest) state =
      runSteps step rest (step item state) :=
  rfl

@[simp]
theorem runSteps_append (first second : List ι) (state : σ) :
    runSteps step (first ++ second) state =
      runSteps step second (runSteps step first state) :=
  List.foldl_append

theorem runSteps_preserves
    (invariant : σ → Prop)
    (preserved : ∀ item state, invariant state → invariant (step item state))
    (steps : List ι) {state : σ} (initially : invariant state) :
    invariant (runSteps step steps state) := by
  induction steps generalizing state with
  | nil =>
      exact initially
  | cons item rest inductionHypothesis =>
      exact inductionHypothesis (preserved item state initially)

/-- The property holds in every state the run reaches, the first and the
last included. -/
def Throughout (property : σ → Prop) (steps : List ι) (state : σ) : Prop :=
  ∀ done, done <+: steps → property (runSteps step done state)

/-- Every step meets the condition in the state it finds. -/
def EachStep (condition : ι → σ → Prop) : List ι → σ → Prop
  | [], _ => True
  | item :: rest, state =>
      condition item state ∧ EachStep condition rest (step item state)

variable {step} {property invariant : σ → Prop}
  {condition : ι → σ → Prop}

@[simp]
theorem throughout_nil_iff {state : σ} :
    Throughout step property [] state ↔ property state := by
  simp [Throughout]

theorem throughout_cons_iff
    {item : ι} {rest : List ι} {state : σ} :
    Throughout step property (item :: rest) state ↔
      property state ∧ Throughout step property rest (step item state) := by
  constructor
  · intro throughout
    refine ⟨throughout [] List.nil_prefix, fun done isPrefix => ?_⟩
    exact
      throughout (item :: done) (List.cons_prefix_cons.mpr ⟨rfl, isPrefix⟩)
  · rintro ⟨now, later⟩ done isPrefix
    cases done with
    | nil =>
        exact now
    | cons first done =>
        obtain ⟨rfl, restPrefix⟩ := List.cons_prefix_cons.mp isPrefix
        exact later done restPrefix

/-- Where an invariant says when a step keeps the property, a run keeps it
exactly if all its steps meet the condition. -/
theorem throughout_iff_eachStep_of_invariant
    (exactly : ∀ item state, property state → invariant state →
      (property (step item state) ↔ condition item state))
    (preserved : ∀ item state, property state → invariant state →
      property (step item state) → invariant (step item state))
    (steps : List ι) {state : σ}
    (holds : property state) (initially : invariant state) :
    Throughout step property steps state ↔
      EachStep step condition steps state := by
  induction steps generalizing state with
  | nil =>
      exact iff_of_true (throughout_nil_iff.mpr holds) trivial
  | cons item rest inductionHypothesis =>
      rw [throughout_cons_iff, EachStep]
      have stepExactly := exactly item state holds initially
      constructor
      · rintro ⟨-, later⟩
        have next : property (step item state) :=
          later [] List.nil_prefix
        have invariantNext := preserved item state holds initially next
        exact
          ⟨stepExactly.mp next,
            (inductionHypothesis next invariantNext).mp later⟩
      · rintro ⟨meets, later⟩
        have next := stepExactly.mpr meets
        have invariantNext := preserved item state holds initially next
        exact
          ⟨holds, (inductionHypothesis next invariantNext).mpr later⟩

/-- The same without an invariant. -/
theorem throughout_iff_eachStep
    (exactly : ∀ item state, property state →
      (property (step item state) ↔ condition item state))
    (steps : List ι) {state : σ} (holds : property state) :
    Throughout step property steps state ↔
      EachStep step condition steps state := by
  have exactlyUnder : ∀ item state, property state → True →
      (property (step item state) ↔ condition item state) :=
    fun item state now _ => exactly item state now
  exact
    throughout_iff_eachStep_of_invariant exactlyUnder
      (fun _ _ _ _ _ => trivial) steps holds trivial

/-- Where an invariant makes a step meet the condition, every step of a run
does. -/
theorem eachStep_of_invariant
    (meets : ∀ item state, invariant state → condition item state)
    (preserved : ∀ item state, invariant state → invariant (step item state))
    (steps : List ι) {state : σ} (initially : invariant state) :
    EachStep step condition steps state := by
  induction steps generalizing state with
  | nil =>
      trivial
  | cons item rest inductionHypothesis =>
      exact
        ⟨meets item state initially,
          inductionHypothesis (preserved item state initially)⟩

theorem EachStep.mono {weaker : ι → σ → Prop}
    (implies : ∀ item state, condition item state → weaker item state)
    {steps : List ι} {state : σ}
    (each : EachStep step condition steps state) :
    EachStep step weaker steps state := by
  induction steps generalizing state with
  | nil =>
      trivial
  | cons item rest inductionHypothesis =>
      exact ⟨implies item state each.1, inductionHypothesis each.2⟩

theorem eachStep_congr {other : ι → σ → Prop}
    (same : ∀ item state, condition item state ↔ other item state)
    (steps : List ι) (state : σ) :
    EachStep step condition steps state ↔
      EachStep step other steps state :=
  ⟨fun each => each.mono fun item state => (same item state).mp,
    fun each => each.mono fun item state => (same item state).mpr⟩

theorem throughout_congr {other : σ → Prop}
    (same : ∀ state, property state ↔ other state)
    (steps : List ι) (state : σ) :
    Throughout step property steps state ↔
      Throughout step other steps state :=
  forall₂_congr fun _ _ => same _

/-- Two properties that are the same under an invariant. -/
theorem throughout_congr_of_invariant {other : σ → Prop}
    (same : ∀ state, invariant state → (property state ↔ other state))
    (preserved : ∀ item state, invariant state → invariant (step item state))
    (steps : List ι) {state : σ} (initially : invariant state) :
    Throughout step property steps state ↔
      Throughout step other steps state := by
  have reached : ∀ done, invariant (runSteps step done state) :=
    fun done => runSteps_preserves step invariant preserved done initially
  constructor
  · intro throughout done isPrefix
    exact (same _ (reached done)).mp (throughout done isPrefix)
  · intro throughout done isPrefix
    exact (same _ (reached done)).mpr (throughout done isPrefix)

/-- Where an abstract machine follows the steps, and its condition is met when
the one of the concrete machine is, so it is over a whole run. -/
theorem eachStep_iff_of_simulation {τ : Type} {abstractStep : ι → τ → τ}
    {relation : σ → τ → Prop} {abstractCondition : ι → τ → Prop}
    (exactly : ∀ item state view, relation state view →
      (condition item state ↔ abstractCondition item view))
    (simulates : ∀ item state view, relation state view →
      relation (step item state) (abstractStep item view))
    (steps : List ι) {state : σ} {view : τ}
    (related : relation state view) :
    EachStep step condition steps state ↔
      EachStep abstractStep abstractCondition steps view := by
  induction steps generalizing state view with
  | nil =>
      exact Iff.rfl
  | cons item rest inductionHypothesis =>
      exact
        and_congr (exactly item state view related)
          (inductionHypothesis (simulates item state view related))

end Runs

end Interaction
