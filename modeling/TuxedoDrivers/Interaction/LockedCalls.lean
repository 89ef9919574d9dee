import TuxedoDrivers.Interaction.Interleaving

/-!
# Calls under a lock

A call that makes several requests to a device is not one step, and the
requests of two calls can come between each other.  Where the calls make their
requests under one lock, they cannot, and every interleaving of the requests
does what some interleaving of the calls does in which each call is one step.
The step of a call is then the turn in which its thread takes the lock.

Beside the device there are variables that the threads access without the
lock, and a call may depend on a choice that is made when it begins.
-/

namespace Interaction

/-- How a call is made. -/
inductive Implementation (V C : Type) (S : Signature) (A : Type) where
  /-- By one access to the variables. -/
  | access (update : V → A × V)
  /-- By requests to the device that are made under the lock. -/
  | underLock (body : C → Program S A)

/-- What a thread has still to do: calls, and before them the rest of a call
that waits for the lock or holds it. -/
inductive Caller (T S : Signature) (α : Type) where
  | outside (calls : Program T α)
  | waiting (call : T.Request) (body : Program S (T.Answer call))
      (next : T.Answer call → Program T α)
  | inside (call : T.Request) (left : Program S (T.Answer call))
      (next : T.Answer call → Program T α)

namespace Caller

variable {T S : Signature} {α σ : Type}

/-- What is left to a caller once the call that holds the lock is made. -/
def settled (device : Environment S σ) (state : σ) :
    Caller T S α → Program T α
  | .outside calls => calls
  | .waiting call _ next => .ask call next
  | .inside _ left next => next (left.run device state).1

def isInside : Caller T S α → Bool
  | .inside _ _ _ => true
  | _ => false

theorem settled_congr {device : Environment S σ} {caller : Caller T S α}
    (notInside : caller.isInside = false) (state state' : σ) :
    caller.settled device state = caller.settled device state' := by
  cases caller with
  | outside calls => rfl
  | waiting call body next => rfl
  | inside call left next => cases notInside

end Caller

/-- Threads that make calls, with who holds the lock. -/
structure Callers (T S : Signature) (ι α V σ : Type) where
  callers : ι → Caller T S α
  holder : Option ι
  shared : V
  device : σ

namespace Callers

variable {T S : Signature} {ι α V C σ τ : Type} [DecidableEq ι]
  (implementation :
    (call : T.Request) → Implementation V C S (T.Answer call))
  (device : Environment S σ)

/-- The callers when one of them goes on. -/
def proceed (system : Callers T S ι α V σ) (thread : ι)
    (caller : Caller T S α) : ι → Caller T S α :=
  Function.update system.callers thread caller

/-- The turn of a thread, with the choice for a call that it begins.  The
turn of a thread that is done, or that waits for a lock that is held, changes
nothing. -/
def step (turn : ι × C) (system : Callers T S ι α V σ) :
    Callers T S ι α V σ :=
  match system.callers turn.1 with
  | .outside (.done _) => system
  | .outside (.ask call next) =>
      match implementation call with
      | .access update =>
          { system with
            callers :=
              system.proceed turn.1 (.outside (next (update system.shared).1))
            shared := (update system.shared).2 }
      | .underLock body =>
          { system with
            callers :=
              system.proceed turn.1 (.waiting call (body turn.2) next) }
  | .waiting call body next =>
      match system.holder with
      | some _ => system
      | none =>
          { system with
            callers := system.proceed turn.1 (.inside call body next)
            holder := some turn.1 }
  | .inside _ (.done answer) next =>
      { system with
        callers := system.proceed turn.1 (.outside (next answer))
        holder := none }
  | .inside call (.ask request rest) next =>
      { system with
        callers :=
          system.proceed turn.1
            (.inside call (rest (device request system.device).1) next)
        device := (device request system.device).2 }

def run : List (ι × C) → Callers T S ι α V σ → Callers T S ι α V σ
  | [], system => system
  | turn :: rest, system =>
      run rest (step implementation device turn system)

/-! ## The calls as steps -/

/-- The steps that a turn is when calls are steps: an access to the
variables, or the call for which the turn takes the lock. -/
def stepOf (system : Callers T S ι α V σ) (thread : ι) : List ι :=
  match system.callers thread with
  | .outside (.ask call _) =>
      match implementation call with
      | .access _ => [thread]
      | .underLock _ => []
  | .waiting _ _ _ =>
      match system.holder with
      | some _ => []
      | none => [thread]
  | _ => []

/-- The steps of a schedule, the calls in the order in which they take the
lock. -/
def order : List (ι × C) → Callers T S ι α V σ → List ι
  | [], _ => []
  | turn :: rest, system =>
      system.stepOf implementation turn.1 ++
        order rest (step implementation device turn system)

/-- The device once the call that holds the lock is made. -/
def settledDevice (system : Callers T S ι α V σ) : σ :=
  match system.holder with
  | none => system.device
  | some thread =>
      match system.callers thread with
      | .inside _ left _ => (left.run device system.device).2
      | _ => system.device

variable (calls : Environment T (V × τ)) (relation : σ → τ → Prop)

/-- Calls made alone, from related states, do what the steps do. -/
structure Implements : Prop where
  access :
    ∀ {call update}, implementation call = .access update →
      ∀ shared view, calls call (shared, view) =
        ((update shared).1, (update shared).2, view)
  underLock :
    ∀ {call body}, implementation call = .underLock body →
      ∀ choice shared {state view}, relation state view →
        ∃ view',
          calls call (shared, view) =
              (((body choice).run device state).1, shared, view') ∧
            relation ((body choice).run device state).2 view'

/-- Calls in progress beside the same threads with calls as steps. -/
structure Corresponds (system : Callers T S ι α V σ)
    (threads : Threads T ι α (V × τ)) : Prop where
  programs :
    ∀ thread, threads.programs thread =
      (system.callers thread).settled device system.device
  shared : threads.state.1 = system.shared
  related : relation (system.settledDevice device) threads.state.2
  /-- Only the thread that holds the lock is inside of a call. -/
  exclusive :
    ∀ thread, (system.callers thread).isInside = true ↔
      system.holder = some thread
  /-- A body that waits for the lock is one of its call. -/
  prepared :
    ∀ {thread call body next},
      system.callers thread = .waiting call body next →
        ∃ bodies choice, implementation call = .underLock bodies ∧
          bodies choice = body

section Correspondence

variable {implementation device calls relation}
  {system : Callers T S ι α V σ} {threads : Threads T ι α (V × τ)}
  {thread : ι} {caller : Caller T S α}

omit [DecidableEq ι] in
theorem Corresponds.holder_ne
    (corresponds :
      Corresponds implementation device relation system threads)
    (outside : (system.callers thread).isInside = false) :
    system.holder ≠ some thread := by
  intro holds
  have inside := (corresponds.exclusive thread).mpr holds
  rw [outside] at inside
  cases inside

theorem settledDevice_proceed (other : system.holder ≠ some thread)
    (shared : V) :
    settledDevice device
        { system with
          callers := system.proceed thread caller, shared := shared } =
      system.settledDevice device := by
  unfold settledDevice
  cases held : system.holder with
  | none => rfl
  | some holder =>
      have different : holder ≠ thread := by
        rintro rfl
        exact other held
      simp only [proceed, Function.update_of_ne different]

/-- A thread that goes on outside of the lock keeps who is inside. -/
theorem exclusive_proceed
    (exclusive : ∀ thread, (system.callers thread).isInside = true ↔
      system.holder = some thread)
    (before : (system.callers thread).isInside = false)
    (after : caller.isInside = false) (other : ι) :
    (system.proceed thread caller other).isInside = true ↔
      system.holder = some other := by
  by_cases same : other = thread
  · subst same
    have notHeld : system.holder ≠ some other := by
      intro holds
      have inside := (exclusive other).mpr holds
      rw [before] at inside
      cases inside
    rw [proceed, Function.update_self, after]
    exact iff_of_false Bool.false_ne_true notHeld
  · rw [proceed, Function.update_of_ne same]
    exact exclusive other

theorem prepared_proceed
    (prepared : ∀ {thread call body next},
      system.callers thread = .waiting call body next →
        ∃ bodies choice, implementation call = .underLock bodies ∧
          bodies choice = body)
    (here : ∀ {call body next}, caller = .waiting call body next →
      ∃ bodies choice, implementation call = .underLock bodies ∧
        bodies choice = body)
    {other : ι} {call : T.Request} {body : Program S (T.Answer call)}
    {next : T.Answer call → Program T α}
    (waits : system.proceed thread caller other = .waiting call body next) :
    ∃ bodies choice, implementation call = .underLock bodies ∧
      bodies choice = body := by
  by_cases same : other = thread
  · subst same
    rw [proceed, Function.update_self] at waits
    exact here waits
  · rw [proceed, Function.update_of_ne same] at waits
    exact prepared waits

private theorem Corresponds.access
    (implements : Implements implementation device calls relation)
    (corresponds :
      Corresponds implementation device relation system threads)
    {call : T.Request} {next : T.Answer call → Program T α}
    (here : system.callers thread = .outside (.ask call next))
    {update : V → T.Answer call × V}
    (made : implementation call = .access update) :
    Corresponds implementation device relation
      { system with
        callers :=
          system.proceed thread (.outside (next (update system.shared).1))
        shared := (update system.shared).2 }
      (threads.run calls [thread]) := by
  have asks : threads.programs thread = .ask call next := by
    rw [corresponds.programs, here]
    rfl
  have answers :
      calls call threads.state =
        ((update system.shared).1, (update system.shared).2,
          threads.state.2) := by
    rw [← implements.access made, ← corresponds.shared]
  have outside : (system.callers thread).isInside = false := by
    rw [here]
    rfl
  simp only [Threads.run, Threads.step_of_ask asks, answers]
  constructor
  · intro other
    by_cases same : other = thread
    · subst same
      simp only [proceed, Function.update_self, Caller.settled]
    · simp only [proceed, Function.update_of_ne same]
      exact corresponds.programs other
  · rfl
  · rw [settledDevice_proceed (corresponds.holder_ne outside)]
    exact corresponds.related
  · exact exclusive_proceed corresponds.exclusive outside rfl
  · refine prepared_proceed corresponds.prepared fun waits => ?_
    cases waits

private theorem Corresponds.begin
    (corresponds :
      Corresponds implementation device relation system threads)
    {call : T.Request} {next : T.Answer call → Program T α}
    (here : system.callers thread = .outside (.ask call next))
    {body : C → Program S (T.Answer call)}
    (made : implementation call = .underLock body) (choice : C) :
    Corresponds implementation device relation
      { system with
        callers := system.proceed thread (.waiting call (body choice) next) }
      threads := by
  have outside : (system.callers thread).isInside = false := by
    rw [here]
    rfl
  constructor
  · intro other
    by_cases same : other = thread
    · subst same
      simp only [proceed, Function.update_self, Caller.settled]
      rw [corresponds.programs, here]
      rfl
    · simp only [proceed, Function.update_of_ne same]
      exact corresponds.programs other
  · exact corresponds.shared
  · rw [settledDevice_proceed (corresponds.holder_ne outside) system.shared]
    exact corresponds.related
  · exact exclusive_proceed corresponds.exclusive outside rfl
  · refine prepared_proceed corresponds.prepared fun waits => ?_
    cases waits
    exact ⟨body, choice, made, rfl⟩

/-- The turn in which the lock is taken is the step of the whole call. -/
private theorem Corresponds.take
    (implements : Implements implementation device calls relation)
    (corresponds :
      Corresponds implementation device relation system threads)
    {call : T.Request} {body : Program S (T.Answer call)}
    {next : T.Answer call → Program T α}
    (here : system.callers thread = .waiting call body next)
    (free : system.holder = none) :
    Corresponds implementation device relation
      { system with
        callers := system.proceed thread (.inside call body next)
        holder := some thread }
      (threads.run calls [thread]) := by
  have asks : threads.programs thread = .ask call next := by
    rw [corresponds.programs, here]
    rfl
  have related : relation system.device threads.state.2 := by
    have settled := corresponds.related
    rwa [settledDevice, free] at settled
  obtain ⟨bodies, choice, made, rfl⟩ := corresponds.prepared here
  obtain ⟨view, answers, relatedAfter⟩ :=
    implements.underLock made choice threads.state.1 related
  have answersHere :
      calls call threads.state =
        (((bodies choice).run device system.device).1, threads.state.1,
          view) :=
    answers
  have nobodyInside (other : ι) :
      (system.callers other).isInside = false := by
    rw [Bool.eq_false_iff]
    intro inside
    rw [corresponds.exclusive, free] at inside
    cases inside
  simp only [Threads.run, Threads.step_of_ask asks, answersHere]
  constructor
  · intro other
    by_cases same : other = thread
    · subst same
      simp only [proceed, Function.update_self, Caller.settled]
    · simp only [proceed, Function.update_of_ne same]
      exact corresponds.programs other
  · exact corresponds.shared
  · simp only [settledDevice, proceed, Function.update_self]
    exact relatedAfter
  · intro other
    by_cases same : other = thread
    · subst same
      simp only [proceed, Function.update_self, Caller.isInside]
    · have different : thread ≠ other := fun equal => same equal.symm
      simp only [proceed, Function.update_of_ne same, nobodyInside other,
        Bool.false_eq_true, Option.some.injEq, different]
  · refine prepared_proceed corresponds.prepared fun waits => ?_
    cases waits

private theorem Corresponds.request
    (corresponds :
      Corresponds implementation device relation system threads)
    {call : T.Request} {request : S.Request}
    {rest : S.Answer request → Program S (T.Answer call)}
    {next : T.Answer call → Program T α}
    (here : system.callers thread = .inside call (.ask request rest) next) :
    Corresponds implementation device relation
      { system with
        callers :=
          system.proceed thread
            (.inside call (rest (device request system.device).1) next)
        device := (device request system.device).2 }
      threads := by
  have inside : (system.callers thread).isInside = true := by
    rw [here]
    rfl
  have held := (corresponds.exclusive thread).mp inside
  constructor
  · intro other
    by_cases same : other = thread
    · subst same
      simp only [proceed, Function.update_self, Caller.settled]
      rw [corresponds.programs, here]
      rfl
    · have notInside : (system.callers other).isInside = false := by
        rw [Bool.eq_false_iff]
        intro otherInside
        have otherHeld := (corresponds.exclusive other).mp otherInside
        rw [held] at otherHeld
        exact same (Option.some.inj otherHeld).symm
      simp only [proceed, Function.update_of_ne same]
      rw [corresponds.programs]
      exact Caller.settled_congr notInside _ _
  · exact corresponds.shared
  · have settled := corresponds.related
    rw [settledDevice, held] at settled
    simp only [here, Program.run] at settled
    simp only [settledDevice, held, proceed, Function.update_self]
    exact settled
  · intro other
    by_cases same : other = thread
    · subst same
      simp only [proceed, Function.update_self, Caller.isInside, held]
    · simp only [proceed, Function.update_of_ne same]
      exact corresponds.exclusive other
  · refine prepared_proceed corresponds.prepared fun waits => ?_
    cases waits

private theorem Corresponds.release
    (corresponds :
      Corresponds implementation device relation system threads)
    {call : T.Request} {answer : T.Answer call}
    {next : T.Answer call → Program T α}
    (here : system.callers thread = .inside call (.done answer) next) :
    Corresponds implementation device relation
      { system with
        callers := system.proceed thread (.outside (next answer))
        holder := none }
      threads := by
  have inside : (system.callers thread).isInside = true := by
    rw [here]
    rfl
  have held := (corresponds.exclusive thread).mp inside
  constructor
  · intro other
    by_cases same : other = thread
    · subst same
      simp only [proceed, Function.update_self, Caller.settled]
      rw [corresponds.programs, here]
      rfl
    · simp only [proceed, Function.update_of_ne same]
      exact corresponds.programs other
  · exact corresponds.shared
  · have settled := corresponds.related
    rw [settledDevice, held] at settled
    simp only [here, Program.run] at settled
    exact settled
  · intro other
    by_cases same : other = thread
    · subst same
      simp only [proceed, Function.update_self, Caller.isInside,
        Bool.false_eq_true, reduceCtorEq]
    · have notHeld : system.holder ≠ some other := by
        rw [held]
        intro equal
        exact same (Option.some.inj equal).symm
      simp only [proceed, Function.update_of_ne same,
        corresponds.exclusive other, notHeld, reduceCtorEq]
  · refine prepared_proceed corresponds.prepared fun waits => ?_
    cases waits

/-- A turn is none or one of the steps. -/
theorem corresponds_step
    (implements : Implements implementation device calls relation)
    (corresponds :
      Corresponds implementation device relation system threads)
    (turn : ι × C) :
    Corresponds implementation device relation
      (step implementation device turn system)
      (threads.run calls (system.stepOf implementation turn.1)) := by
  unfold step stepOf
  split
  case h_1 value done =>
    simp only [done, Threads.run]
    exact corresponds
  case h_2 call next here =>
    simp only [here]
    cases made : implementation call with
    | access update =>
        exact corresponds.access implements here made
    | underLock body =>
        exact corresponds.begin here made turn.2
  case h_3 call body next here =>
    simp only [here]
    split
    · exact corresponds
    · exact corresponds.take implements here ‹_›
  case h_4 call answer next here =>
    simp only [here]
    exact corresponds.release here
  case h_5 call request rest next here =>
    simp only [here]
    exact corresponds.request here

/-- Every schedule does what the steps in the order of the locks do. -/
theorem corresponds_run
    (implements : Implements implementation device calls relation)
    (schedule : List (ι × C))
    (corresponds :
      Corresponds implementation device relation system threads) :
    Corresponds implementation device relation
      (system.run implementation device schedule)
      (threads.run calls (system.order implementation device schedule)) := by
  induction schedule generalizing system threads with
  | nil =>
      exact corresponds
  | cons turn rest inductionHypothesis =>
      have stepped := corresponds_step implements corresponds turn
      rw [order, Threads.run_append]
      exact inductionHypothesis stepped

/-! ## From the beginning of the calls to the end of one -/

/-- The thread inside of a call leaves it after some turns of its own, and
they are steps of no other call. -/
theorem exists_release (choice : C) {call : T.Request}
    {left : Program S (T.Answer call)} {next : T.Answer call → Program T α}
    (here : system.callers thread = .inside call left next) :
    ∃ count,
      (system.run implementation device
          (List.replicate count (thread, choice))).holder = none ∧
        system.order implementation device
          (List.replicate count (thread, choice)) = [] := by
  induction left generalizing system with
  | done answer =>
      refine ⟨1, ?_, ?_⟩
      · simp only [List.replicate, run, step, here]
      · simp only [List.replicate, order, stepOf, here, List.append_nil]
  | ask request rest inductionHypothesis =>
      have later :
          (step implementation device (thread, choice) system).callers
              thread =
            .inside call (rest (device request system.device).1) next := by
        simp only [step, here, proceed, Function.update_self]
      obtain ⟨count, released, alone⟩ := inductionHypothesis _ later
      refine ⟨count + 1, ?_, ?_⟩
      · rw [List.replicate_succ, run]
        exact released
      · rw [List.replicate_succ, order, alone]
        simp only [stepOf, here, List.append_nil]

theorem run_append (first second : List (ι × C)) :
    system.run implementation device (first ++ second) =
      (system.run implementation device first).run implementation device
        second := by
  induction first generalizing system with
  | nil => rfl
  | cons turn rest inductionHypothesis => exact inductionHypothesis

theorem order_append (first second : List (ι × C)) :
    system.order implementation device (first ++ second) =
      system.order implementation device first ++
        (system.run implementation device first).order implementation device
          second := by
  induction first generalizing system with
  | nil =>
      rfl
  | cons turn rest inductionHypothesis =>
      rw [List.cons_append, order, order, inductionHypothesis, run,
        List.append_assoc]

end Correspondence

/-- Threads before their first call, with the lock free. -/
def start (programs : ι → Program T α) (shared : V) (state : σ) :
    Callers T S ι α V σ where
  callers thread := .outside (programs thread)
  holder := none
  shared := shared
  device := state

variable {implementation device calls relation}

omit [DecidableEq ι] in
theorem corresponds_start (programs : ι → Program T α) (shared : V)
    {state : σ} {view : τ} (related : relation state view) :
    Corresponds implementation device relation
      (start programs shared state) ⟨programs, shared, view⟩ where
  programs := fun _ => rfl
  shared := rfl
  related := related
  exclusive := fun _ => iff_of_false Bool.false_ne_true (nomatch ·)
  prepared := fun waits => nomatch waits

/-- However the requests of the calls come between each other, a call that
is under way can be finished, and then the threads and the device are as if
each call had been one step. -/
theorem exists_settled
    (implements : Implements implementation device calls relation)
    (programs : ι → Program T α) (shared : V) {state : σ} {view : τ}
    (related : relation state view) (choice : C)
    (schedule : List (ι × C)) :
    ∃ turns,
      let reached :=
        (start programs shared state).run implementation device
          (schedule ++ turns)
      let threads :=
        (Threads.mk programs (shared, view)).run calls
          ((start programs shared state).order implementation device
            schedule)
      reached.holder = none ∧
        (∀ thread, (reached.callers thread).settled device reached.device =
          threads.programs thread) ∧
        reached.shared = threads.state.1 ∧
        relation reached.device threads.state.2 := by
  have initially :
      Corresponds implementation device relation
        (start programs shared state) ⟨programs, shared, view⟩ :=
    corresponds_start programs shared related
  have correspondsThen := corresponds_run implements schedule initially
  have finished :
      ∃ turns,
        (((start programs shared state).run implementation device
            schedule).run implementation device turns).holder = none ∧
          ((start programs shared state).run implementation device
            schedule).order implementation device turns = [] := by
    cases held : ((start programs shared state).run implementation device
        schedule).holder with
    | none =>
        exact ⟨[], held, rfl⟩
    | some holder =>
        have inside := (correspondsThen.exclusive holder).mpr held
        cases here : ((start programs shared state).run implementation device
            schedule).callers holder with
        | outside calls =>
            rw [here] at inside
            cases inside
        | waiting call body next =>
            rw [here] at inside
            cases inside
        | inside call left next =>
            obtain ⟨count, released, alone⟩ := exists_release choice here
            exact ⟨_, released, alone⟩
  obtain ⟨turns, released, alone⟩ := finished
  have corresponds :=
    corresponds_run implements (schedule ++ turns) initially
  rw [order_append, alone, List.append_nil, run_append] at corresponds
  refine ⟨turns, ?_⟩
  rw [run_append]
  refine
    ⟨released, fun thread => (corresponds.programs thread).symm,
      corresponds.shared.symm, ?_⟩
  have settled := corresponds.related
  rwa [settledDevice, released] at settled

end Callers

end Interaction
