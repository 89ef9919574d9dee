import TuxedoDrivers.Interaction.Interleaving

/-!
# Control points of concurrent programs

What a thread has still to do is a program, and the programs a thread goes
through are its control points.  An invariant of concurrent programs is about
the points the threads are at and the common state, and it is enough that the
turns that are permitted preserve it.
-/

namespace Interaction

/-- The first request of a program, unless it is done. -/
def Program.firstRequest {S : Signature} {α : Type} :
    Program S α → Option S.Request
  | .done _ => none
  | .ask request _ => some request

namespace Threads

variable {S : Signature} {ι α σ P : Type} [DecidableEq ι]
  {environment : Environment S σ}

/-- The request a thread asks next. -/
def nextRequest (threads : Threads S ι α σ) (thread : ι) :
    Option S.Request :=
  (threads.programs thread).firstRequest

/-- Every turn that is not skipped is permitted, given the thread and the
threads before and after it. -/
def EachTurn (environment : Environment S σ)
    (permitted : ι → Threads S ι α σ → Threads S ι α σ → Prop) :
    List ι → Threads S ι α σ → Prop
  | [], _ => True
  | thread :: rest, threads =>
      match threads.step environment thread with
      | none => EachTurn environment permitted rest threads
      | some (_, after) =>
          permitted thread threads after ∧
            EachTurn environment permitted rest after

instance decidableEachTurn
    (permitted : ι → Threads S ι α σ → Threads S ι α σ → Prop)
    [∀ thread before after, Decidable (permitted thread before after)] :
    ∀ schedule threads,
      Decidable (EachTurn environment permitted schedule threads)
  | [], _ => inferInstanceAs (Decidable True)
  | thread :: rest, threads => by
      have := decidableEachTurn permitted rest
      unfold EachTurn
      split
      · infer_instance
      · infer_instance

theorem EachTurn.mono
    {permitted wider : ι → Threads S ι α σ → Threads S ι α σ → Prop}
    (implies : ∀ {thread before after}, permitted thread before after →
      wider thread before after)
    {schedule : List ι} {threads : Threads S ι α σ}
    (turns : EachTurn environment permitted schedule threads) :
    EachTurn environment wider schedule threads := by
  induction schedule generalizing threads with
  | nil =>
      trivial
  | cons thread rest inductionHypothesis =>
      unfold EachTurn at turns ⊢
      split at turns
      · exact inductionHypothesis turns
      · exact ⟨implies turns.1, inductionHypothesis turns.2⟩

/-- A turn changes the state as the environment does for its request. -/
theorem state_of_step {threads after : Threads S ι α σ} {thread : ι}
    {event : Event S}
    (stepped : threads.step environment thread = some (event, after)) :
    after.state = (environment event.request threads.state).2 := by
  cases left : threads.programs thread with
  | done value =>
      rw [step_of_done left] at stepped
      cases stepped
  | ask request next =>
      rw [step_of_ask left] at stepped
      cases stepped
      rfl

/-- What every request preserves holds after every schedule. -/
theorem run_preserves_state (invariant : σ → Prop)
    (preserved : ∀ request state, invariant state →
      invariant (environment request state).2)
    (schedule : List ι) {threads : Threads S ι α σ}
    (initially : invariant threads.state) :
    invariant (threads.run environment schedule).state := by
  induction schedule generalizing threads with
  | nil =>
      exact initially
  | cons thread rest inductionHypothesis =>
      cases stepped : threads.step environment thread with
      | none =>
          simpa only [run, stepped] using inductionHypothesis initially
      | some result =>
          obtain ⟨event, after⟩ := result
          have now : invariant after.state := by
            rw [state_of_step stepped]
            exact preserved event.request threads.state initially
          simpa only [run, stepped] using inductionHypothesis now

/-- What every permitted turn preserves holds after a schedule of permitted
turns. -/
theorem run_preserves_of_eachTurn
    {permitted : ι → Threads S ι α σ → Threads S ι α σ → Prop}
    (invariant : Threads S ι α σ → Prop)
    (preserved :
      ∀ {threads thread event after},
        threads.step environment thread = some (event, after) →
        permitted thread threads after →
        invariant threads → invariant after)
    (schedule : List ι) {threads : Threads S ι α σ}
    (turns : EachTurn environment permitted schedule threads)
    (initially : invariant threads) :
    invariant (threads.run environment schedule) := by
  induction schedule generalizing threads with
  | nil =>
      exact initially
  | cons thread rest inductionHypothesis =>
      cases stepped : threads.step environment thread with
      | none =>
          simp only [EachTurn, stepped] at turns
          simpa only [run, stepped] using
            inductionHypothesis turns initially
      | some result =>
          obtain ⟨event, after⟩ := result
          simp only [EachTurn, stepped] at turns
          simpa only [run, stepped] using
            inductionHypothesis turns.2
              (preserved stepped turns.1 initially)

/-! ## Points -/

/-- Every thread has the program of its point left. -/
def At (program : P → Program S α) (threads : Threads S ι α σ)
    (points : ι → P) : Prop :=
  ∀ thread, threads.programs thread = program (points thread)

/-- From each point the next request leads to the point and the state that
`advance` gives, and at the last points there is none. -/
def Follows (environment : Environment S σ)
    (program : P → Program S α) (advance : P → σ → Option (P × σ)) :
    Prop :=
  ∀ point state,
    match program point with
    | .done _ => advance point state = none
    | .ask request next =>
        ∃ point',
          advance point state =
              some (point', (environment request state).2) ∧
            next (environment request state).1 = program point'

variable {program : P → Program S α}
  {advance : P → σ → Option (P × σ)}

omit [DecidableEq ι] in
theorem nextRequest_at {threads : Threads S ι α σ} {points : ι → P}
    (at_ : threads.At program points) (thread : ι) :
    threads.nextRequest thread =
      (program (points thread)).firstRequest := by
  rw [nextRequest, at_ thread]

/-- A turn takes one thread to the next point. -/
theorem step_at (follows : Follows environment program advance)
    {threads after : Threads S ι α σ} {thread : ι} {event : Event S}
    {points : ι → P} (at_ : threads.At program points)
    (stepped : threads.step environment thread = some (event, after)) :
    ∃ point',
      advance (points thread) threads.state = some (point', after.state) ∧
        after.At program (Function.update points thread point') := by
  have follow := follows (points thread) threads.state
  rw [← at_ thread] at follow
  cases left : threads.programs thread with
  | done value =>
      rw [step_of_done left] at stepped
      cases stepped
  | ask request next =>
      rw [step_of_ask left] at stepped
      cases stepped
      rw [left] at follow
      obtain ⟨point', advanced, leads⟩ := follow
      refine ⟨point', advanced, ?_⟩
      intro other
      change
        Function.update threads.programs thread _ other =
          program (Function.update points thread point' other)
      by_cases same : other = thread
      · subst same
        rw [Function.update_self, Function.update_self]
        exact leads
      · rw [Function.update_of_ne same, Function.update_of_ne same]
        exact at_ other

/-- What a thread asks when it runs alone from a point on is allowed, if that
is so at every point it comes by. -/
theorem trace_allowed (follows : Follows environment program advance)
    (allowed : S.Request → Prop) (covered : P → σ → Prop)
    (first : ∀ {point state request}, covered point state →
      (program point).firstRequest = some request → allowed request)
    (stays : ∀ {point state point' state'}, covered point state →
      advance point state = some (point', state') →
        covered point' state')
    {point : P} {state : σ} (here : covered point state)
    {event : Event S}
    (member : event ∈ (program point).trace environment state) :
    allowed event.request := by
  generalize left : program point = rest at member
  induction rest generalizing point state with
  | done value =>
      cases member
  | ask request next inductionHypothesis =>
      have follow := follows point state
      simp only [left] at follow
      obtain ⟨point', advanced, leads⟩ := follow
      rcases List.mem_cons.mp member with rfl | later
      · exact first here (congrArg Program.firstRequest left)
      · exact inductionHypothesis _ (stays here advanced) leads.symm later

/-- The rule for invariants about points. -/
theorem run_preserves_points
    (follows : Follows environment program advance)
    {permitted : ι → Threads S ι α σ → Threads S ι α σ → Prop}
    (invariant : (ι → P) → σ → Prop)
    (preserved :
      ∀ {thread : ι} {threads after : Threads S ι α σ}
        {points : ι → P} {point' : P},
        threads.At program points →
        after.At program (Function.update points thread point') →
        advance (points thread) threads.state =
          some (point', after.state) →
        permitted thread threads after →
        invariant points threads.state →
        invariant (Function.update points thread point') after.state)
    (schedule : List ι) {threads : Threads S ι α σ} {points : ι → P}
    (turns : EachTurn environment permitted schedule threads)
    (at_ : threads.At program points)
    (initially : invariant points threads.state) :
    ∃ points',
      (threads.run environment schedule).At program points' ∧
        invariant points' (threads.run environment schedule).state := by
  refine
    run_preserves_of_eachTurn
      (fun threads : Threads S ι α σ =>
        ∃ points, threads.At program points ∧
          invariant points threads.state) ?_ schedule turns
      ⟨points, at_, initially⟩
  rintro threads thread event after stepped isPermitted
    ⟨points, at_, now⟩
  obtain ⟨point', advanced, atAfter⟩ := step_at follows at_ stepped
  exact
    ⟨Function.update points thread point', atAfter,
      preserved at_ atAfter advanced isPermitted now⟩

/-! ## One thread moves -/

section Moves

variable {points : ι → P} {thread : ι} {point' : P}

theorem exists_update {property : P → Prop} (here : property point') :
    ∃ other, property (Function.update points thread point' other) := by
  refine ⟨thread, ?_⟩
  rw [Function.update_self]
  exact here

/-- Some thread still has a property, unless the one that moved had it. -/
theorem exists_update_or {before after : P → Prop} {moved : Prop}
    (others : ∀ point, before point → after point)
    (here : before (points thread) → after point' ∨ moved)
    (someThread : ∃ other, before (points other)) :
    (∃ other, after (Function.update points thread point' other)) ∨
      moved := by
  obtain ⟨other, holds⟩ := someThread
  by_cases same : other = thread
  · subst same
    rcases here holds with now | moved
    · exact Or.inl (exists_update now)
    · exact Or.inr moved
  · refine Or.inl ⟨other, ?_⟩
    rw [Function.update_of_ne same]
    exact others _ holds

/-- At most one thread is inside, and then the flag says so. -/
def Exclusive (inside : P → Prop) (points : ι → P) (busy : Bool) :
    Prop :=
  ∀ thread, inside (points thread) →
    busy = true ∧ ∀ other, inside (points other) → other = thread

/-- Nobody enters while the flag is set, and only the one inside changes
it. -/
theorem Exclusive.update {inside : P → Prop} {busy busy' : Bool}
    (exclusive : Exclusive inside points busy)
    (enters : inside point' →
      (inside (points thread) ∧ busy' = busy) ∨
        (busy = false ∧ busy' = true))
    (outside : ¬ inside (points thread) → ¬ inside point' →
      busy' = busy) :
    Exclusive inside (Function.update points thread point') busy' := by
  have stayed {other : ι} (different : other ≠ thread)
      (now : inside (Function.update points thread point' other)) :
      inside (points other) := by
    rwa [Function.update_of_ne different] at now
  by_cases here : inside point'
  · have only {other : ι}
        (now : inside (Function.update points thread point' other)) :
        other = thread := by
      by_contra different
      have earlier := exclusive other (stayed different now)
      rcases enters here with ⟨inside, _⟩ | ⟨free, _⟩
      · exact different (earlier.2 thread inside).symm
      · rw [free] at earlier
        cases earlier.1
    have busyNow : busy' = true := by
      rcases enters here with ⟨inside, same⟩ | ⟨_, busyNow⟩
      · rw [same]
        exact (exclusive thread inside).1
      · exact busyNow
    intro other now
    refine ⟨busyNow, fun third thirdNow => ?_⟩
    rw [only now, only thirdNow]
  · have different {other : ι}
        (now : inside (Function.update points thread point' other)) :
        other ≠ thread := by
      rintro rfl
      rw [Function.update_self] at now
      exact here now
    intro other now
    have earlier := exclusive other (stayed (different now) now)
    have notInside : ¬ inside (points thread) := fun inside =>
      different now (earlier.2 thread inside).symm
    rw [outside notInside here]
    refine ⟨earlier.1, fun third thirdNow => ?_⟩
    exact earlier.2 third (stayed (different thirdNow) thirdNow)

end Moves

end Threads

end Interaction
