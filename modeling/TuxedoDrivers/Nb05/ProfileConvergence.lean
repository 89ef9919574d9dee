import TuxedoDrivers.Nb05.ProfileThreads

/-!
# The profile that the user chose

Stores, mode changes of the firmware, expiries of the timer and executions of
the rewrite work run concurrently on the NB05 machines.  A store tells the
firmware first and remembers the profile afterwards.  The main result says
that the firmware ends up with the remembered profile if no store remembers a
profile that the firmware no longer has and nobody will write again.
-/

namespace TuxedoDrivers.Nb05.PowerProfiles

open Interaction
open TuxedoDrivers.Wmi

namespace ProfilePoint

/-! ## What is still to come -/

/-- A thread alone writes or remembers a profile from here on. -/
def pending (state : ProfileState) : ProfilePoint → Prop
  | parsing buffer _ => (platformProfileValue buffer).isSome = true
  | flagging _ _ | arming _ _ => True
  | finding writer _ | writing writer _ => writer ≠ .work
  | remembering _ => True
  | notifying _ => state.changedByDriver = false
  | reporting _ | scheduling _ => True
  | clearing | rescheduling => True
  | began | fetching | findingReader | reading =>
      state.firmware ≠ state.lastChosen
  | comparing current => current ≠ state.lastChosen
  | choosing => True
  | _ => False

/-- The flag is about to be cleared, or the timer to be armed that clears
it. -/
def clearsFlag : ProfilePoint → Prop
  | clearing | arming _ _ => True
  | _ => False

/-- The callback of the timer is about to queue the work. -/
def fromTimer : ProfilePoint → Prop
  | clearing | rescheduling => True
  | _ => False

/-- An execution of the work is about to set the profile. -/
def rewrites : ProfilePoint → Prop
  | finding writer _ | writing writer _ => writer = .work
  | _ => False

/-- An execution of the work is in progress. -/
def executes : ProfilePoint → Prop
  | began | fetching | findingReader | reading => True
  | comparing _ | choosing | ending => True
  | flagging writer _ | arming writer _ => writer = .work
  | finding writer _ | writing writer _ => writer = .work
  | _ => False

section Turns

variable {point point' : ProfilePoint} {state state' : ProfileState}

/-- A property of neither point is none of the one that a turn chooses. -/
theorem not_of_ite {property : ProfilePoint → Prop} {condition : Prop}
    [Decidable condition] {first second : ProfilePoint}
    (notFirst : ¬ property first) (notSecond : ¬ property second) :
    ¬ property (if condition then first else second) := by
  split
  · exact notFirst
  · exact notSecond

theorem executes_of_rewrites (rewriting : point.rewrites) :
    point.executes := by
  cases point with
  | finding writer profile => exact rewriting
  | writing writer profile => exact rewriting
  | _ => exact rewriting.elim

theorem pending_of_fromTimer (called : point.fromTimer) :
    point.pending state := by
  cases point with
  | clearing => trivial
  | rescheduling => trivial
  | _ => exact called.elim

theorem pending_of_clearsFlag (clears : point.clearsFlag) :
    point.pending state := by
  cases point with
  | clearing => trivial
  | arming writer profile => trivial
  | _ => exact clears.elim

/-- The timer stays armed until its callback runs. -/
theorem armed_of_advance
    (advanced : point.advance state = some (point', state'))
    (armed : state.armed = true) :
    state'.armed = true ∨ point' = clearing := by
  cases point with
  | finished => cases advanced
  | expiring =>
      cases advanced
      exact Or.inr (if_pos armed)
  | arming writer profile =>
      cases advanced
      exact Or.inl rfl
  | starting =>
      cases advanced
      left
      split
      · exact armed
      · exact armed
  | _ =>
      cases advanced
      exact Or.inl armed

/-- The work stays queued until an execution begins. -/
theorem queued_of_advance
    (advanced : point.advance state = some (point', state'))
    (queued : state.queued = true) :
    state'.queued = true ∨ (state.running = false ∧ point' = began) := by
  cases point with
  | finished => cases advanced
  | starting =>
      cases advanced
      by_cases free : state.queued = true ∧ state.running = false
      · simp only [if_pos free]
        exact Or.inr ⟨free.2, trivial⟩
      · simp only [if_neg free]
        exact Or.inl queued
  | scheduling event =>
      cases advanced
      exact Or.inl rfl
  | rescheduling =>
      cases advanced
      exact Or.inl rfl
  | _ =>
      cases advanced
      exact Or.inl queued

/-- The flag is only set to be cleared again. -/
theorem flag_of_advance
    (advanced : point.advance state = some (point', state'))
    (flag : state'.changedByDriver = true) :
    state.changedByDriver = true ∨ point'.clearsFlag := by
  cases point with
  | finished => cases advanced
  | flagging writer profile =>
      cases advanced
      exact Or.inr trivial
  | clearing =>
      cases advanced
      cases flag
  | starting =>
      cases advanced
      left
      split at flag
      · exact flag
      · exact flag
  | _ =>
      cases advanced
      exact Or.inl flag

theorem armed_of_clearsFlag
    (advanced : point.advance state = some (point', state'))
    (flag : state'.changedByDriver = true) (clears : point.clearsFlag) :
    state'.armed = true := by
  cases point with
  | clearing =>
      cases advanced
      cases flag
  | arming writer profile =>
      cases advanced
      rfl
  | _ => exact clears.elim

theorem fromTimer_of_advance
    (advanced : point.advance state = some (point', state'))
    (called : point.fromTimer) :
    point'.fromTimer ∨ state'.queued = true := by
  cases point with
  | clearing =>
      cases advanced
      exact Or.inl trivial
  | rescheduling =>
      cases advanced
      exact Or.inr rfl
  | _ => exact called.elim

/-- An execution arms the timer before it sets the profile. -/
theorem rewrites_of_advance
    (advanced : point.advance state = some (point', state'))
    (rewriting : point'.rewrites) :
    point.rewrites ∨ state'.armed = true := by
  cases point with
  | finished => cases advanced
  | arming writer profile =>
      cases advanced
      exact Or.inr rfl
  | finding writer profile =>
      cases advanced
      exact Or.inl rewriting
  | writing writer profile =>
      cases advanced
      cases writer with
      | store size => exact rewriting.elim
      | work => exact rewriting.elim
  | parsing buffer size =>
      cases advanced
      unfold parsed at rewriting
      split at rewriting
      · exact rewriting.elim
      · exact rewriting.elim
  | notifying event =>
      cases advanced
      exact absurd rewriting (not_of_ite id id)
  | expiring =>
      cases advanced
      exact absurd rewriting (not_of_ite id id)
  | starting =>
      cases advanced
      exact absurd rewriting (not_of_ite id id)
  | comparing current =>
      cases advanced
      exact absurd rewriting (not_of_ite id id)
  | _ =>
      cases advanced
      exact rewriting.elim

/-- An execution begins where none is running. -/
theorem executes_of_advance
    (advanced : point.advance state = some (point', state'))
    (executing : point'.executes) :
    (point.executes ∧ state'.running = state.running) ∨
      (state.running = false ∧ state'.running = true) := by
  cases point with
  | finished => cases advanced
  | starting =>
      cases advanced
      by_cases free : state.queued = true ∧ state.running = false
      · simp only [if_pos free]
        exact Or.inr ⟨free.2, trivial⟩
      · rw [if_neg free] at executing
        exact executing.elim
  | parsing buffer size =>
      cases advanced
      unfold parsed at executing
      split at executing
      · cases executing
      · exact executing.elim
  | notifying event =>
      cases advanced
      exact absurd executing (not_of_ite id id)
  | expiring =>
      cases advanced
      exact absurd executing (not_of_ite id id)
  | writing writer profile =>
      cases advanced
      cases writer with
      | store size => exact executing.elim
      | work => exact Or.inl ⟨rfl, rfl⟩
  | flagging writer profile =>
      cases advanced
      exact Or.inl ⟨executing, rfl⟩
  | arming writer profile =>
      cases advanced
      exact Or.inl ⟨executing, rfl⟩
  | finding writer profile =>
      cases advanced
      exact Or.inl ⟨executing, rfl⟩
  | began | fetching | findingReader | reading | comparing | choosing =>
      cases advanced
      exact Or.inl ⟨trivial, rfl⟩
  | _ =>
      cases advanced
      exact executing.elim

theorem running_of_advance
    (advanced : point.advance state = some (point', state'))
    (before : ¬ point.executes) (after : ¬ point'.executes) :
    state'.running = state.running := by
  cases point with
  | finished => cases advanced
  | starting =>
      cases advanced
      by_cases free : state.queued = true ∧ state.running = false
      · rw [if_pos free] at after
        exact absurd trivial after
      · rw [if_neg free]
  | ending => exact absurd trivial before
  | _ =>
      cases advanced
      rfl

/-- What is still to come from one thread is left to it, to the timer or to
the work. -/
theorem pending_of_advance
    (advanced : point.advance state = some (point', state'))
    (unremembered : ∀ profile, point ≠ remembering profile)
    (isPending : point.pending state) :
    point'.pending state' ∨ state'.armed = true ∨ state'.queued = true := by
  cases point with
  | finished => cases advanced
  | parsing buffer size =>
      cases advanced
      obtain ⟨profile, value⟩ := Option.isSome_iff_exists.mp isPending
      left
      rw [parsed, value]
      trivial
  | flagging writer profile =>
      cases advanced
      exact Or.inl trivial
  | arming writer profile =>
      cases advanced
      exact Or.inr (Or.inl rfl)
  | finding writer profile =>
      cases advanced
      exact Or.inl isPending
  | writing writer profile =>
      cases advanced
      cases writer with
      | store size => exact Or.inl trivial
      | work => exact absurd rfl isPending
  | remembering profile => exact absurd rfl (unremembered profile)
  | notifying event =>
      have unset : state.changedByDriver = false := isPending
      cases advanced
      rw [if_pos unset]
      exact Or.inl trivial
  | reporting event =>
      cases advanced
      exact Or.inl trivial
  | scheduling event =>
      cases advanced
      exact Or.inr (Or.inr rfl)
  | clearing =>
      cases advanced
      exact Or.inl trivial
  | rescheduling =>
      cases advanced
      exact Or.inr (Or.inr rfl)
  | began | fetching | findingReader | reading =>
      cases advanced
      exact Or.inl isPending
  | comparing current =>
      have differs : current ≠ state.lastChosen := isPending
      cases advanced
      rw [if_pos differs]
      exact Or.inl trivial
  | choosing =>
      cases advanced
      exact Or.inl trivial
  | _ => exact isPending.elim

/-- The turns that can part the firmware's profile from the last one. -/
theorem fields_of_advance
    (advanced : point.advance state = some (point', state')) :
    (state'.firmware = state.firmware ∧
        state'.lastChosen = state.lastChosen ∧
        state'.changedByDriver = state.changedByDriver) ∨
      point'.pending state' ∨
      (∃ profile, point = writing .work profile) ∨
      (∃ profile event, point = changing profile event) ∨
      ∃ profile, point = remembering profile := by
  cases point with
  | finished => cases advanced
  | flagging writer profile =>
      cases advanced
      exact Or.inr (Or.inl trivial)
  | writing writer profile =>
      cases advanced
      cases writer with
      | store size => exact Or.inr (Or.inl trivial)
      | work => exact Or.inr (Or.inr (Or.inl ⟨profile, rfl⟩))
  | changing profile event =>
      exact Or.inr (Or.inr (Or.inr (Or.inl ⟨profile, event, rfl⟩)))
  | remembering profile =>
      exact Or.inr (Or.inr (Or.inr (Or.inr ⟨profile, rfl⟩)))
  | clearing =>
      cases advanced
      exact Or.inr (Or.inl trivial)
  | starting =>
      cases advanced
      left
      split
      · exact ⟨rfl, rfl, rfl⟩
      · exact ⟨rfl, rfl, rfl⟩
  | _ =>
      cases advanced
      exact Or.inl ⟨rfl, rfl, rfl⟩

theorem pending_congr (firmware : state'.firmware = state.firmware)
    (lastChosen : state'.lastChosen = state.lastChosen)
    (changedByDriver : state'.changedByDriver = state.changedByDriver)
    (isPending : point.pending state) : point.pending state' := by
  cases point with
  | notifying event => exact changedByDriver.trans isPending
  | began | fetching | findingReader | reading =>
      change state'.firmware ≠ state'.lastChosen
      rw [firmware, lastChosen]
      exact isPending
  | comparing current =>
      change current ≠ state'.lastChosen
      rw [lastChosen]
      exact isPending
  | _ => exact isPending

end Turns

end ProfilePoint

/-! ## The invariant -/

section Invariant

variable {ι : Type}

/-- The profiles are equal, or somebody is still to write one. -/
def Rewritten (points : ι → ProfilePoint) (state : ProfileState) : Prop :=
  state.firmware = state.lastChosen ∨ state.armed = true ∨
    state.queued = true ∨ ∃ thread, (points thread).pending state

structure Converging (points : ι → ProfilePoint) (state : ProfileState) :
    Prop where
  rewritten : Rewritten points state
  flagged : state.changedByDriver = true →
    state.armed = true ∨ ∃ thread, (points thread).clearsFlag
  followed : ∀ thread, (points thread).rewrites →
    state.armed = true ∨ state.queued = true ∨
      ∃ other, (points other).fromTimer
  exclusive :
    Threads.Exclusive ProfilePoint.executes points state.running

variable [DecidableEq ι] {points : ι → ProfilePoint} {thread : ι}
  {point' : ProfilePoint} {state state' : ProfileState}

theorem flagged_turn (converging : Converging points state)
    (advanced : (points thread).advance state = some (point', state'))
    (flag : state'.changedByDriver = true) :
    state'.armed = true ∨
      ∃ other, (Function.update points thread point' other).clearsFlag := by
  rcases ProfilePoint.flag_of_advance advanced flag with before | here
  · rcases converging.flagged before with armed | someThread
    · rcases ProfilePoint.armed_of_advance advanced armed with
        still | cleared
      · exact Or.inl still
      · right
        apply Threads.exists_update
        rw [cleared]
        trivial
    · have here (clears : (points thread).clearsFlag) :
          point'.clearsFlag ∨ state'.armed = true :=
        Or.inr (ProfilePoint.armed_of_clearsFlag advanced flag clears)
      have moved :=
        Threads.exists_update_or (fun _ clears => clears) here someThread
      exact moved.symm
  · exact Or.inr (Threads.exists_update here)

theorem followed_turn (converging : Converging points state)
    (advanced : (points thread).advance state = some (point', state'))
    (other : ι)
    (rewriting :
      (Function.update points thread point' other).rewrites) :
    state'.armed = true ∨ state'.queued = true ∨
      ∃ third,
        (Function.update points thread point' third).fromTimer := by
  have before : (points other).rewrites ∨ state'.armed = true := by
    by_cases same : other = thread
    · subst same
      rw [Function.update_self] at rewriting
      exact ProfilePoint.rewrites_of_advance advanced rewriting
    · rw [Function.update_of_ne same] at rewriting
      exact Or.inl rewriting
  rcases before with before | armed
  · rcases converging.followed other before with armed | queued | called
    · rcases ProfilePoint.armed_of_advance advanced armed with
        still | cleared
      · exact Or.inl still
      · right
        right
        apply Threads.exists_update
        rw [cleared]
        trivial
    · rcases ProfilePoint.queued_of_advance advanced queued with
        still | ⟨free, _⟩
      · exact Or.inr (Or.inl still)
      · -- No execution begins while this one is in progress.
        have executing := ProfilePoint.executes_of_rewrites before
        have running := (converging.exclusive other executing).1
        rw [free] at running
        cases running
    · have moved :=
        Threads.exists_update_or (fun _ called => called)
          (ProfilePoint.fromTimer_of_advance advanced) called
      exact Or.inr moved.symm
  · exact Or.inl armed

/-- Where a turn leaves both profiles and the flag, whatever was to write a
profile still is. -/
theorem rewritten_of_same (rewritten : Rewritten points state)
    (advanced : (points thread).advance state = some (point', state'))
    (unremembered : ∀ profile, points thread ≠ .remembering profile)
    (firmware : state'.firmware = state.firmware)
    (lastChosen : state'.lastChosen = state.lastChosen)
    (changedByDriver :
      state'.changedByDriver = state.changedByDriver) :
    Rewritten (Function.update points thread point') state' := by
  by_cases equal : state'.firmware = state'.lastChosen
  · exact Or.inl equal
  · right
    rcases rewritten with equalBefore | armed | queued | someThread
    · rw [firmware, lastChosen] at equal
      exact absurd equalBefore equal
    · rcases ProfilePoint.armed_of_advance advanced armed with
        still | cleared
      · exact Or.inl still
      · right
        right
        apply Threads.exists_update
        rw [cleared]
        trivial
    · rcases ProfilePoint.queued_of_advance advanced queued with
        still | ⟨_, begun⟩
      · exact Or.inr (Or.inl still)
      · right
        right
        apply Threads.exists_update
        rw [begun]
        exact equal
    · have others (point : ProfilePoint)
          (isPending : point.pending state) : point.pending state' :=
        ProfilePoint.pending_congr firmware lastChosen changedByDriver
          isPending
      have here :=
        ProfilePoint.pending_of_advance advanced unremembered
      have moved := Threads.exists_update_or others here someThread
      rcases moved with now | armed | queued
      · exact Or.inr (Or.inr now)
      · exact Or.inl armed
      · exact Or.inr (Or.inl queued)

/-- The timer, the work or another thread is to write a profile. -/
theorem rewritten_of_others {property : ProfilePoint → Prop}
    (comes : ∀ point, property point → point.pending state')
    (notHere : ¬ property (points thread))
    (due : state'.armed = true ∨ state'.queued = true ∨
      ∃ other, property (points other)) :
    Rewritten (Function.update points thread point') state' := by
  rcases due with armed | queued | someThread
  · exact Or.inr (Or.inl armed)
  · exact Or.inr (Or.inr (Or.inl queued))
  · have here (holds : property (points thread)) :
        point'.pending state' ∨ False :=
      absurd holds notHere
    rcases Threads.exists_update_or comes here someThread with
      moved | impossible
    · exact Or.inr (Or.inr (Or.inr moved))
    · exact impossible.elim

/-- A turn that remembers no profile keeps the profiles together, or somebody
is to write one afterwards. -/
theorem rewritten_turn (converging : Converging points state)
    (advanced : (points thread).advance state = some (point', state'))
    (unremembered : ∀ profile, points thread ≠ .remembering profile) :
    Rewritten (Function.update points thread point') state' := by
  rcases ProfilePoint.fields_of_advance advanced with
    ⟨firmware, lastChosen, flag⟩ | here | ⟨profile, place⟩ |
      ⟨profile, event, place⟩ | ⟨profile, place⟩
  · exact
      rewritten_of_same converging.rewritten advanced unremembered firmware
        lastChosen flag
  · exact Or.inr (Or.inr (Or.inr (Threads.exists_update here)))
  · -- The timer that this execution armed brings the next one.
    have rewriting : (points thread).rewrites := by
      rw [place]
      trivial
    have followed := converging.followed thread rewriting
    have notCalled : ¬ (points thread).fromTimer := by
      rw [place]
      exact fun called => called
    rw [place] at advanced
    cases advanced
    exact
      rewritten_of_others
        (fun _ => ProfilePoint.pending_of_fromTimer) notCalled followed
  · -- The notification that follows looks at the flag.
    have notClears : ¬ (points thread).clearsFlag := by
      rw [place]
      exact fun clears => clears
    rw [place] at advanced
    cases advanced
    cases flag : state.changedByDriver with
    | false =>
        have unset :
            ProfilePoint.pending
              { state with firmware := profile, changedByDriver := false }
              (.notifying event) := rfl
        exact Or.inr (Or.inr (Or.inr (Threads.exists_update unset)))
    | true =>
        have due : state.armed = true ∨ state.queued = true ∨
            ∃ other, (points other).clearsFlag := by
          rcases converging.flagged flag with armed | someThread
          · exact Or.inl armed
          · exact Or.inr (Or.inr someThread)
        exact
          rewritten_of_others
            (fun _ => ProfilePoint.pending_of_clearsFlag) notClears due
  · exact absurd place (unremembered profile)

end Invariant

/-! ## Runs -/

/-- Requests that begin an activity. -/
def ProfileRequest.begins : ProfileRequest → Prop
  | .beginStore | .changeMode _ | .expireTimer | .beginWork => True
  | _ => False

/-- Requests that bring the firmware a profile, and those that remember
one. -/
def ProfileRequest.writes : ProfileRequest → Prop
  | .modTimer | .scheduleWork | .setLastChosenProfile _ _ => True
  | _ => False

section Runs

variable {ι : Type}

def InProgress (driver : Driver ι) (thread : ι) : Prop :=
  ∃ item : ProfileRequest,
    driver.nextRequest thread = some item ∧ ¬ item.begins

/-- The timer is armed, the work is queued, or an activity in progress that
ran alone from here on would arm the timer, queue the work or remember a
profile. -/
def WriteDue (driver : Driver ι) : Prop :=
  driver.state.armed = true ∨ driver.state.queued = true ∨
    ∃ thread, InProgress driver thread ∧
      ∃ event ∈ (driver.programs thread).trace environment driver.state,
        ProfileRequest.writes event.request

/-- A store remembers the profile that the firmware has, or a profile is
still to be written or remembered. -/
def RemembersKept (thread : ι) (before after : Driver ι) : Prop :=
  ∀ data profile,
    before.nextRequest thread =
        some (ProfileRequest.setLastChosenProfile data profile) →
      before.state.firmware = profile ∨ WriteDue after

/-- No activity is in progress, the timer is not armed, and the work is
neither queued nor running. -/
structure Quiescent (driver : Driver ι) : Prop where
  idle : ∀ thread, ¬ InProgress driver thread
  unarmed : driver.state.armed = false
  unqueued : driver.state.queued = false
  stopped : driver.state.running = false

end Runs

namespace ProfilePoint

/-- Before the beginning of an activity. -/
def waits : ProfilePoint → Prop
  | storing _ _ | changing _ _ | expiring | starting => True
  | _ => False

section Quiet

variable {point point' : ProfilePoint} {state state' : ProfileState}

/-- A thread from which nothing is to come brings nothing. -/
theorem not_writes_of_quiet {item : ProfileRequest}
    (quiet : ¬ point.waits ∧ ¬ point.pending state)
    (asked : point.program.firstRequest = some item) : ¬ item.writes := by
  cases point with
  | flagging writer profile => exact absurd trivial quiet.2
  | arming writer profile => exact absurd trivial quiet.2
  | remembering profile => exact absurd trivial quiet.2
  | scheduling event => exact absurd trivial quiet.2
  | rescheduling => exact absurd trivial quiet.2
  | finished => cases asked
  | finding writer profile =>
      cases writer with
      | store size => exact absurd Writer.noConfusion quiet.2
      | work =>
          cases asked
          exact fun writes => writes
  | writing writer profile =>
      cases writer with
      | store size => exact absurd Writer.noConfusion quiet.2
      | work =>
          cases asked
          exact fun writes => writes
  | notifying event =>
      simp only [program, actOnEvent_of_mode event.isMode] at asked
      cases asked
      exact fun writes => writes
  | _ =>
      cases asked
      exact fun writes => writes

theorem quiet_of_advance
    (quiet : ¬ point.waits ∧ ¬ point.pending state)
    (advanced : point.advance state = some (point', state')) :
    ¬ point'.waits ∧ ¬ point'.pending state' := by
  obtain ⟨waits, notPending⟩ := quiet
  cases point with
  | finished => cases advanced
  | storing _ _ | changing _ _ | expiring | starting =>
      exact absurd trivial waits
  | flagging _ _ | arming _ _ | remembering _ | reporting _ =>
      exact absurd trivial notPending
  | scheduling _ | clearing | rescheduling | choosing =>
      exact absurd trivial notPending
  | parsing buffer size =>
      cases advanced
      cases value : platformProfileValue buffer with
      | none =>
          rw [parsed, value]
          exact ⟨id, id⟩
      | some profile =>
          simp only [pending, value] at notPending
          exact absurd rfl notPending
  | finding writer profile =>
      cases advanced
      exact ⟨id, notPending⟩
  | writing writer profile =>
      cases advanced
      cases writer with
      | store size => exact absurd Writer.noConfusion notPending
      | work => exact ⟨id, id⟩
  | notifying event =>
      have set : ¬ state.changedByDriver = false := notPending
      cases advanced
      rw [if_neg set]
      exact ⟨id, id⟩
  | comparing current =>
      have equal : ¬ current ≠ state.lastChosen := notPending
      cases advanced
      rw [if_neg equal]
      exact ⟨id, id⟩
  | began | fetching | findingReader | reading =>
      cases advanced
      exact ⟨id, notPending⟩
  | reportingCode _ | reportingCombo _ | ending =>
      cases advanced
      exact ⟨id, id⟩

theorem pending_of_writes (waits : ¬ point.waits)
    {event : Event profileSignature}
    (member : event ∈ point.program.trace environment state)
    (writes : ProfileRequest.writes event.request) :
    point.pending state := by
  by_contra notPending
  have notWrites :=
    Threads.trace_allowed follows (fun item => ¬ item.writes)
      (fun point state => ¬ point.waits ∧ ¬ point.pending state)
      not_writes_of_quiet quiet_of_advance ⟨waits, notPending⟩ member
  exact notWrites writes

/-- Nothing is to come where an activity waits to begin or has finished. -/
theorem begun_of_pending (isPending : point.pending state) :
    ∃ item, point.program.firstRequest = some item ∧ ¬ item.begins := by
  cases point with
  | finished | storing _ _ | changing _ _ | expiring | starting =>
      exact isPending.elim
  | reportingCode _ | reportingCombo _ | ending =>
      exact isPending.elim
  | flagging writer _ | arming writer _ | finding writer _
  | writing writer _ =>
      cases writer with
      | store size => exact ⟨_, rfl, id⟩
      | work => exact ⟨_, rfl, id⟩
  | notifying event =>
      simp only [program, actOnEvent_of_mode event.isMode]
      exact ⟨_, rfl, id⟩
  | _ => exact ⟨_, rfl, id⟩

theorem not_waits_of_not_begins {item : ProfileRequest}
    (asked : point.program.firstRequest = some item)
    (begun : ¬ item.begins) : ¬ point.waits := by
  intro waits
  cases point with
  | storing _ _ | changing _ _ | expiring | starting =>
      cases asked
      exact begun trivial
  | _ => exact waits

end Quiet

end ProfilePoint

namespace Activity

/-- Where an activity begins. -/
def point : Activity → ProfilePoint
  | store buffer size => .storing buffer size
  | modeChange profile event => .changing profile event
  | timerExpiry => .expiring
  | workExecution => .starting

theorem program_eq (activity : Activity) :
    activity.program = activity.point.program := by
  cases activity with
  | _ => rfl

theorem not_executes (activity : Activity) :
    ¬ activity.point.executes := by
  cases activity with
  | _ => exact id

end Activity

section Runs

variable {ι : Type} {points : ι → ProfilePoint}
  {driver before after : Driver ι} {thread : ι} {point' : ProfilePoint}

theorem rewritten_of_writeDue
    (at_ : driver.At ProfilePoint.program points)
    (due : WriteDue driver) : Rewritten points driver.state := by
  rcases due with armed | queued | ⟨thread, inProgress, event, member, writes⟩
  · exact Or.inr (Or.inl armed)
  · exact Or.inr (Or.inr (Or.inl queued))
  · obtain ⟨item, asked, begun⟩ := inProgress
    rw [Threads.nextRequest_at at_] at asked
    rw [at_ thread] at member
    have waits := ProfilePoint.not_waits_of_not_begins asked begun
    have isPending := ProfilePoint.pending_of_writes waits member writes
    exact Or.inr (Or.inr (Or.inr ⟨thread, isPending⟩))

theorem equal_of_quiescent (at_ : driver.At ProfilePoint.program points)
    (quiescent : Quiescent driver)
    (rewritten : Rewritten points driver.state) :
    driver.state.firmware = driver.state.lastChosen := by
  rcases rewritten with equal | armed | queued | ⟨thread, isPending⟩
  · exact equal
  · rw [quiescent.unarmed] at armed
    cases armed
  · rw [quiescent.unqueued] at queued
    cases queued
  · obtain ⟨item, asked, begun⟩ :=
      ProfilePoint.begun_of_pending isPending
    rw [← Threads.nextRequest_at at_] at asked
    exact absurd ⟨item, asked, begun⟩ (quiescent.idle thread)

theorem at_start (activities : ι → Activity) (profile : U64) :
    (start activities profile).At ProfilePoint.program
      fun thread => (activities thread).point :=
  fun thread => (activities thread).program_eq

theorem converging_start (activities : ι → Activity) (profile : U64) :
    Converging (fun thread => (activities thread).point)
      (ProfileState.initial profile) where
  rewritten := Or.inl rfl
  flagged flag := by
    cases flag
  followed thread rewriting := by
    have executing := ProfilePoint.executes_of_rewrites rewriting
    exact absurd executing (activities thread).not_executes
  exclusive thread executing :=
    absurd executing (activities thread).not_executes

variable [DecidableEq ι]

theorem converging_turn (at_ : before.At ProfilePoint.program points)
    (atAfter : after.At ProfilePoint.program
      (Function.update points thread point'))
    (advanced : (points thread).advance before.state =
      some (point', after.state))
    (kept : RemembersKept thread before after)
    (converging : Converging points before.state) :
    Converging (Function.update points thread point') after.state where
  rewritten := by
    by_cases place : ∃ profile, points thread = .remembering profile
    · obtain ⟨profile, place⟩ := place
      have asked := Threads.nextRequest_at at_ thread
      rw [place] at asked advanced
      rcases kept (some wmiDevice) profile asked with equal | due
      · left
        have reached := (Prod.mk.inj (Option.some.inj advanced)).2
        rw [← reached]
        exact equal
      · exact rewritten_of_writeDue atAfter due
    · exact
        rewritten_turn converging advanced fun profile same =>
          place ⟨profile, same⟩
  flagged := flagged_turn converging advanced
  followed := followed_turn converging advanced
  exclusive := by
    apply converging.exclusive.update
    · exact ProfilePoint.executes_of_advance advanced
    · exact ProfilePoint.running_of_advance advanced

/-- Where every store remembers the profile that the firmware has, or one
that is still to be written, the firmware ends up with the profile of the
user whatever the order of the activities. -/
theorem profile_converges (activities : ι → Activity) (profile : U64)
    (schedule : List ι)
    (turns : Threads.EachTurn environment RemembersKept schedule
      (start activities profile))
    (quiescent :
      Quiescent ((start activities profile).run environment schedule)) :
    ((start activities profile).run environment schedule).state.firmware =
      ((start activities profile).run environment
        schedule).state.lastChosen := by
  have reached :=
    Threads.run_preserves_points ProfilePoint.follows Converging
      converging_turn schedule turns (at_start activities profile)
      (converging_start activities profile)
  obtain ⟨points, at_, converging⟩ := reached
  exact equal_of_quiescent at_ quiescent converging.rewritten

end Runs

/-! ## Two runs -/

inductive Actor where
  | firstStore
  | secondStore
  | timer
  | work
  deriving DecidableEq, Repr

def activities : Actor → Activity
  | .firstStore => .store "performance" 11
  | .secondStore => .store "low-power" 9
  | .timer => .timerExpiry
  | .work => .workExecution

/-- One store, and what its timer brings about. -/
def oneStore : List Actor :=
  List.replicate 7 .firstStore ++ List.replicate 3 .timer ++
    List.replicate 7 .work

/-- A store remembers the profile that the firmware has. -/
def RemembersWritten (actor : Actor) (before _after : Driver Actor) :
    Prop :=
  match before.nextRequest actor with
  | some (.setLastChosenProfile _ profile) =>
      before.state.firmware = profile
  | _ => True

instance (actor : Actor) (before after : Driver Actor) :
    Decidable (RemembersWritten actor before after) := by
  unfold RemembersWritten
  split
  · infer_instance
  · infer_instance

theorem remembersKept_of_written {actor : Actor}
    {before after : Driver Actor}
    (written : RemembersWritten actor before after) :
    RemembersKept actor before after := by
  intro data profile asked
  rw [RemembersWritten, asked] at written
  exact Or.inl written

theorem profile_converges_one :
    ((start activities 0).run environment oneStore).state.firmware =
      ((start activities 0).run environment
        oneStore).state.lastChosen := by
  apply profile_converges
  · have written : Threads.EachTurn environment RemembersWritten oneStore
        (start activities 0) := by
      decide
    exact written.mono remembersKept_of_written
  · refine ⟨?_, rfl, rfl, rfl⟩
    rintro actor ⟨item, asked, begun⟩
    cases actor with
    | secondStore =>
        cases asked
        exact begun trivial
    | _ => cases asked

/-- The first store is about to remember its profile while the second one
and what its timer brings about happen. -/
def lateStore : List Actor :=
  List.replicate 6 .firstStore ++ List.replicate 7 .secondStore ++
    List.replicate 3 .timer ++ List.replicate 7 .work ++ [.firstStore]

/-- The profile that is remembered last is not the one that was written
last. -/
theorem late_store_diverges :
    let reached := (start activities 0).run environment lateStore
    Quiescent reached ∧
      reached.state.firmware ≠ reached.state.lastChosen := by
  refine ⟨⟨?_, rfl, rfl, rfl⟩, by decide⟩
  rintro actor ⟨item, asked, begun⟩
  cases actor with
  | _ => cases asked

end TuxedoDrivers.Nb05.PowerProfiles
