import Mathlib.Algebra.Order.Group.Nat
import TuxedoDrivers.Interaction.ControlPoints
import TuxedoDrivers.Ite.Ite829x

/-!
# The mode key of `ite_829x`

The keyboard core calls a notifier for every key event, one after the other.
The notifier leaves the key code in `last_key` and schedules a work, which
reads the code again later.  The main result says which interleavings of
notifications and executions of the work count every press of the mode key
once.
-/

namespace TuxedoDrivers.Ite.ModeKey

open Interaction

/-! ## Programs -/

/-- `code` and `keyboard_notifier_param`. -/
structure Notification where
  code : U64
  down : Bool
  value : U32
  deriving DecidableEq, Repr

def kbdKeycode : U64 := 0x0001

/-- The accesses to what the notifier and the work share. -/
inductive KeyRequest where
  /-- The keyboard core calls the notifier. -/
  | arrive (notification : Notification)
  /-- `mutex_is_locked(&input_lock)`. -/
  | mutexIsLocked
  | setLastKey (key : U64)
  | getLastKey
  | scheduleWork
  /-- The work queue starts an execution if the work is queued. -/
  | beginWork
  | mutexLock
  | mutexUnlock
  /-- The change of `ti_data.mode`, made with the lock held. -/
  | nextMode
  /-- The transfers of `send_mode`. -/
  | sendMode (mode : Nat)
  deriving DecidableEq, Repr

abbrev KeyRequest.Answer : KeyRequest → Type
  | .mutexIsLocked => Bool
  | .getLastKey => U64
  | .beginWork => Bool
  | .nextMode => Nat
  | _ => Unit

abbrev keySignature : Signature :=
  ⟨KeyRequest, KeyRequest.Answer⟩

abbrev Keys (α : Type) : Type :=
  Program keySignature α

def request (item : KeyRequest) : Keys item.Answer :=
  Program.request (S := keySignature) item

def keyboardNotifierCallb (notification : Notification) : Keys Unit := do
  if notification.down = false then
    return ()
  else
    let locked ← request .mutexIsLocked
    if locked = true then
      return ()
    else if notification.code = kbdKeycode then
      request (.setLastKey (notification.value.setWidth 64))
      request .scheduleWork
    else
      return ()

/-- `key_actions`; what a mode does to the LEDs is in `sendMode`. -/
def keyActions (keyCode : U64) : Keys Unit := do
  request .mutexLock
  if keyCode = keyLightsToggle then
    let mode ← request .nextMode
    request (.sendMode mode)
    request .mutexUnlock
  else
    request .mutexUnlock

def ite829xKeyWorkHandler : Keys Unit := do
  let lastKey ← request .getLastKey
  keyActions lastKey

/-- One notification. -/
def serve (notification : Notification) : Keys Unit := do
  request (.arrive notification)
  keyboardNotifierCallb notification

/-- One turn of the work queue. -/
def workRound : Keys Unit := do
  let taken ← request .beginWork
  if taken = true then
    ite829xKeyWorkHandler
  else
    return ()

inductive Party where
  | keyboard
  | worker
  deriving DecidableEq, Repr

/-- The keyboard core serves the notifications one after the other, and the
work queue has some turns. -/
def programs (notifications : List Notification) (rounds : Nat) :
    Party → Keys Unit
  | .keyboard => notifications.forM serve
  | .worker => (List.replicate rounds ()).forM fun _ => workRound

/-! ## Shared state -/

/-- `presses` counts the presses of the mode key that arrived. -/
structure KeyState where
  lastKey : U64
  queued : Bool
  locked : Bool
  mode : Nat
  presses : Nat
  deriving DecidableEq, Repr

def Notification.isPress (notification : Notification) : Prop :=
  notification.down = true ∧ notification.code = kbdKeycode ∧
    notification.value.setWidth 64 = keyLightsToggle

instance (notification : Notification) :
    Decidable notification.isPress :=
  inferInstanceAs (Decidable (_ ∧ _ ∧ _))

def KeyState.arrive (state : KeyState) (notification : Notification) :
    KeyState :=
  { state with
    presses := state.presses + if notification.isPress then 1 else 0 }

def environment : Environment keySignature KeyState
  | .arrive notification, state => ((), state.arrive notification)
  | .mutexIsLocked, state => (state.locked, state)
  | .setLastKey lastKey, state => ((), { state with lastKey })
  | .getLastKey, state => (state.lastKey, state)
  | .scheduleWork, state => ((), { state with queued := true })
  | .beginWork, state => (state.queued, { state with queued := false })
  | .mutexLock, state => ((), { state with locked := true })
  | .mutexUnlock, state => ((), { state with locked := false })
  | .nextMode, state =>
      (Ite.nextMode state.mode,
        { state with mode := Ite.nextMode state.mode })
  | .sendMode _, state => ((), state)

/-- The module just loaded, with this mode. -/
def KeyState.initial (mode : Nat) : KeyState where
  lastKey := 0
  queued := false
  locked := false
  mode
  presses := 0

abbrev Driver : Type :=
  Threads keySignature Party Unit KeyState

def start (notifications : List Notification) (rounds mode : Nat) :
    Driver where
  programs := programs notifications rounds
  state := KeyState.initial mode

/-! ## Control points -/

inductive KeyPoint where
  /-- Between two notifications. -/
  | between (rest : List Notification)
  /-- Before the look at the lock. -/
  | arrived (notification : Notification) (rest : List Notification)
  /-- Before the key code is stored. -/
  | unlocked (notification : Notification) (rest : List Notification)
  /-- Before the work is scheduled. -/
  | stored (rest : List Notification)
  /-- Between two turns of the work queue. -/
  | waiting (rounds : Nat)
  /-- Before `last_key` is read. -/
  | started (rounds : Nat)
  | locking (key : U64) (rounds : Nat)
  /-- Before the mode is changed. -/
  | advancing (rounds : Nat)
  | sending (mode rounds : Nat)
  | unlocking (rounds : Nat)

namespace KeyPoint

def serveRest (rest : List Notification) : Keys Unit :=
  rest.forM serve

def turns (rounds : Nat) : Keys Unit :=
  (List.replicate rounds ()).forM fun _ => workRound

def program : KeyPoint → Keys Unit
  | between rest => serveRest rest
  | arrived notification rest => do
      let locked ← request .mutexIsLocked
      if locked = true then
        serveRest rest
      else if notification.code = kbdKeycode then
        request (.setLastKey (notification.value.setWidth 64))
        request .scheduleWork
        serveRest rest
      else
        serveRest rest
  | unlocked notification rest => do
      request (.setLastKey (notification.value.setWidth 64))
      request .scheduleWork
      serveRest rest
  | stored rest => do
      request .scheduleWork
      serveRest rest
  | waiting rounds => turns rounds
  | started rounds => do
      ite829xKeyWorkHandler
      turns rounds
  | locking key rounds => do
      keyActions key
      turns rounds
  | advancing rounds => do
      let mode ← request .nextMode
      request (.sendMode mode)
      request .mutexUnlock
      turns rounds
  | sending mode rounds => do
      request (.sendMode mode)
      request .mutexUnlock
      turns rounds
  | unlocking rounds => do
      request .mutexUnlock
      turns rounds

def advance : KeyPoint → KeyState → Option (KeyPoint × KeyState)
  | between [], _ => none
  | between (notification :: rest), state =>
      some
        (if notification.down = false then between rest
          else arrived notification rest,
          state.arrive notification)
  | arrived notification rest, state =>
      some
        (if state.locked = true then between rest
          else if notification.code = kbdKeycode then
            unlocked notification rest
          else between rest,
          state)
  | unlocked notification rest, state =>
      some (stored rest,
        { state with lastKey := notification.value.setWidth 64 })
  | stored rest, state =>
      some (between rest, { state with queued := true })
  | waiting 0, _ => none
  | waiting (rounds + 1), state =>
      some
        (if state.queued = true then started rounds else waiting rounds,
          { state with queued := false })
  | started rounds, state => some (locking state.lastKey rounds, state)
  | locking key rounds, state =>
      some
        (if key = keyLightsToggle then advancing rounds
          else unlocking rounds,
          { state with locked := true })
  | advancing rounds, state =>
      some (sending (nextMode state.mode) rounds,
        { state with mode := nextMode state.mode })
  | sending _ rounds, state => some (unlocking rounds, state)
  | unlocking rounds, state =>
      some (waiting rounds, { state with locked := false })

theorem follows : Threads.Follows environment program advance := by
  intro point state
  cases point with
  | between rest =>
      cases rest with
      | nil =>
          rfl
      | cons notification rest =>
          refine ⟨_, rfl, ?_⟩
          by_cases up : notification.down = false
          · rw [if_pos up]
            change
              (keyboardNotifierCallb notification >>= fun _ =>
                serveRest rest) = _
            rw [keyboardNotifierCallb, if_pos up]
            rfl
          · rw [if_neg up]
            change
              (keyboardNotifierCallb notification >>= fun _ =>
                serveRest rest) = _
            rw [keyboardNotifierCallb, if_neg up]
            rw [bind_assoc]
            apply congrArg (request .mutexIsLocked >>= ·)
            funext locked
            cases locked with
            | true => rfl
            | false =>
                by_cases keycode : notification.code = kbdKeycode
                · simp only [keycode]
                  rfl
                · simp only [keycode]
                  rfl
  | arrived notification rest =>
      refine ⟨_, rfl, ?_⟩
      change
        (if state.locked = true then serveRest rest
          else if notification.code = kbdKeycode then
            program (unlocked notification rest)
          else serveRest rest) = _
      split
      · rfl
      · split
        · rfl
        · rfl
  | unlocked notification rest =>
      exact ⟨_, rfl, rfl⟩
  | stored rest =>
      exact ⟨_, rfl, rfl⟩
  | waiting rounds =>
      cases rounds with
      | zero =>
          rfl
      | succ rounds =>
          refine ⟨_, rfl, ?_⟩
          change
            ((if state.queued = true then ite829xKeyWorkHandler
              else pure ()) >>= fun _ => turns rounds) = _
          cases state.queued with
          | true => rfl
          | false => rfl
  | started rounds =>
      exact ⟨_, rfl, rfl⟩
  | locking key rounds =>
      refine ⟨_, rfl, ?_⟩
      by_cases toggle : key = keyLightsToggle
      · simp only [if_pos toggle]
        rfl
      · simp only [if_neg toggle]
        rfl
  | advancing rounds =>
      exact ⟨_, rfl, rfl⟩
  | sending mode rounds =>
      exact ⟨_, rfl, rfl⟩
  | unlocking rounds =>
      exact ⟨_, rfl, rfl⟩

/-- The points of the keyboard core; the others are the worker's. -/
def OfKeyboard : KeyPoint → Prop
  | between _ | arrived _ _ | unlocked _ _ | stored _ => True
  | _ => False

/-- How many changes of the mode are still to come from the activity at a
point. -/
def due (state : KeyState) : KeyPoint → Nat
  | arrived notification _ =>
      if notification.code = kbdKeycode ∧
          notification.value.setWidth 64 = keyLightsToggle then 1 else 0
  | unlocked notification _ =>
      if notification.value.setWidth 64 = keyLightsToggle then 1 else 0
  | stored _ =>
      if state.lastKey = keyLightsToggle ∧ state.queued = false then 1
      else 0
  | started _ => if state.lastKey = keyLightsToggle then 1 else 0
  | locking key _ => if key = keyLightsToggle then 1 else 0
  | advancing _ => 1
  | _ => 0

end KeyPoint

/-! ## The count of presses -/

/-- How many changes are to come from the execution that is queued. -/
def KeyState.due (state : KeyState) : Nat :=
  if state.queued = true ∧ state.lastKey = keyLightsToggle then 1 else 0

theorem modeCount_eq : modeCount = 9 := by
  decide

/-- Every press that arrived has changed the mode or is still to do so. -/
structure Counted (mode : Nat) (keyboard worker : KeyPoint)
    (state : KeyState) : Prop where
  ofKeyboard : keyboard.OfKeyboard
  ofWorker : ¬ worker.OfKeyboard
  valid : state.mode < modeCount
  balance :
    (state.mode + keyboard.due state + worker.due state + state.due) %
        modeCount =
      (mode + state.presses) % modeCount

/-- The request of a turn loses no press and counts none twice. -/
def KeyRequest.KeepsPress (before : Driver) : KeyRequest → Prop
  | .mutexIsLocked => before.state.locked = false
  | .setLastKey key =>
      ¬ (before.state.queued = true ∧
          before.state.lastKey = keyLightsToggle) ∧
        (before.nextRequest .worker = some KeyRequest.getLastKey →
          (key = keyLightsToggle ↔
            before.state.lastKey = keyLightsToggle))
  | .beginWork =>
      ¬ (before.state.queued = true ∧
          before.state.lastKey = keyLightsToggle ∧
          before.nextRequest .keyboard = some KeyRequest.scheduleWork)
  | _ => True

def PressKept (party : Party) (before _after : Driver) : Prop :=
  ∀ item : KeyRequest, before.nextRequest party = some item →
    item.KeepsPress before

section Due

variable {state state' : KeyState}

/-- What is to come from a point depends on the key and the queue only. -/
theorem due_congr (lastKey : state'.lastKey = state.lastKey)
    (queued : state'.queued = state.queued) (point : KeyPoint) :
    point.due state' = point.due state := by
  cases point <;> simp only [KeyPoint.due, lastKey, queued]

/-- The worker does not look at the queue after it began. -/
theorem due_worker_congr (lastKey : state'.lastKey = state.lastKey)
    {worker : KeyPoint} (ofWorker : ¬ worker.OfKeyboard) :
    worker.due state' = worker.due state := by
  cases worker with
  | between rest => exact absurd trivial ofWorker
  | arrived notification rest => exact absurd trivial ofWorker
  | unlocked notification rest => exact absurd trivial ofWorker
  | stored rest => exact absurd trivial ofWorker
  | started rounds => simp only [KeyPoint.due, lastKey]
  | _ => rfl

theorem due_keyboard_of_other_key
    (other : state.lastKey ≠ keyLightsToggle)
    (lastKey : state'.lastKey = state.lastKey) {keyboard : KeyPoint}
    (ofKeyboard : keyboard.OfKeyboard) :
    keyboard.due state' = keyboard.due state := by
  cases keyboard with
  | stored rest =>
      simp only [KeyPoint.due, lastKey, other, false_and, if_false]
  | between rest => rfl
  | arrived notification rest => rfl
  | unlocked notification rest => rfl
  | _ => exact ofKeyboard.elim

end Due

/-! ### Turns of the keyboard core -/

section KeyboardTurns

variable {mode : Nat} {worker : KeyPoint} {state : KeyState}
  {notification : Notification} {rest : List Notification}

/-- A press that arrives is to change the mode. -/
theorem counted_arrive
    (counted : Counted mode (.between (notification :: rest)) worker
      state) :
    Counted mode
      (if notification.down = false then .between rest
        else .arrived notification rest)
      worker (state.arrive notification) := by
  obtain ⟨-, ofWorker, valid, balance⟩ := counted
  have sameWorker : worker.due (state.arrive notification) =
      worker.due state :=
    due_congr rfl rfl worker
  have sameQueue : (state.arrive notification).due = state.due :=
    rfl
  have counts : (state.arrive notification).presses =
      state.presses + if notification.isPress then 1 else 0 :=
    rfl
  rw [modeCount_eq] at balance
  by_cases up : notification.down = false
  · have noPress : ¬ notification.isPress := by
      intro press
      have down := press.1
      rw [up] at down
      cases down
    rw [if_pos up]
    refine ⟨trivial, ofWorker, valid, ?_⟩
    rw [sameWorker, sameQueue, counts, if_neg noPress, modeCount_eq]
    exact balance
  · have down : notification.down = true := by
      simpa using up
    rw [if_neg up]
    refine ⟨trivial, ofWorker, valid, ?_⟩
    rw [sameWorker, sameQueue, counts, modeCount_eq]
    simp only [KeyPoint.due, Notification.isPress, down,
      true_and] at balance ⊢
    change (state.mode + _ + _ + _) % 9 = _
    split
    · omega
    · omega

/-- The lock is free, so nothing is dropped. -/
theorem counted_mutexIsLocked
    (counted : Counted mode (.arrived notification rest) worker state)
    (free : state.locked = false) :
    Counted mode
      (if state.locked = true then .between rest
        else if notification.code = kbdKeycode then
          .unlocked notification rest
        else .between rest)
      worker state := by
  obtain ⟨-, ofWorker, valid, balance⟩ := counted
  have notLocked : ¬ state.locked = true := by
    rw [free]
    decide
  rw [if_neg notLocked]
  by_cases keycode : notification.code = kbdKeycode
  · rw [if_pos keycode]
    refine ⟨trivial, ofWorker, valid, ?_⟩
    simpa only [KeyPoint.due, keycode, true_and] using balance
  · rw [if_neg keycode]
    refine ⟨trivial, ofWorker, valid, ?_⟩
    simpa only [KeyPoint.due, keycode, false_and, if_false] using balance

/-- Nobody is about to read a key code that matters, so the new one can take
its place. -/
theorem counted_setLastKey
    (counted : Counted mode (.unlocked notification rest) worker state)
    (unread : ¬ (state.queued = true ∧ state.lastKey = keyLightsToggle))
    (reader : worker.program.firstRequest = some .getLastKey →
      (notification.value.setWidth 64 = keyLightsToggle ↔
        state.lastKey = keyLightsToggle)) :
    Counted mode (.stored rest) worker
      { state with lastKey := notification.value.setWidth 64 } := by
  obtain ⟨-, ofWorker, valid, balance⟩ := counted
  have sameWorker :
      worker.due
          { state with lastKey := notification.value.setWidth 64 } =
        worker.due state := by
    cases worker with
    | started rounds =>
        have same := reader rfl
        simp only [KeyPoint.due, same]
    | between rest => exact absurd trivial ofWorker
    | arrived notification rest => exact absurd trivial ofWorker
    | unlocked notification rest => exact absurd trivial ofWorker
    | stored rest => exact absurd trivial ofWorker
    | _ => rfl
  refine ⟨trivial, ofWorker, valid, ?_⟩
  rw [sameWorker]
  simp only [KeyState.due, if_neg unread] at balance
  simp only [KeyPoint.due, KeyState.due] at balance ⊢
  rw [modeCount_eq] at balance ⊢
  by_cases toggle : notification.value.setWidth 64 = keyLightsToggle
  · cases queued : state.queued with
    | true =>
        simp only [toggle, queued] at balance ⊢
        simp at balance ⊢
        omega
    | false =>
        simp only [toggle, queued] at balance ⊢
        simp at balance ⊢
        omega
  · simp only [toggle, and_false, false_and, if_false] at balance ⊢
    exact balance

/-- The work is scheduled for the key that was stored. -/
theorem counted_scheduleWork
    (counted : Counted mode (.stored rest) worker state) :
    Counted mode (.between rest) worker { state with queued := true } := by
  obtain ⟨-, ofWorker, valid, balance⟩ := counted
  have sameWorker :
      worker.due { state with queued := true } = worker.due state := by
    apply due_worker_congr
    · rfl
    · exact ofWorker
  refine ⟨trivial, ofWorker, valid, ?_⟩
  rw [sameWorker]
  simp only [KeyPoint.due, KeyState.due] at balance ⊢
  rw [modeCount_eq] at balance ⊢
  cases queued : state.queued with
  | true =>
      simp only [queued] at balance ⊢
      simp at balance ⊢
      omega
  | false =>
      simp only [queued] at balance ⊢
      simp at balance ⊢
      omega

end KeyboardTurns

/-! ### Turns of the worker -/

section WorkerTurns

variable {mode rounds : Nat} {keyboard : KeyPoint} {state : KeyState}

/-- A turn of the worker that leaves the key, the queue and the presses alone
only has to balance the mode. -/
theorem counted_of_balance {worker worker' : KeyPoint} {state' : KeyState}
    (counted : Counted mode keyboard worker state)
    (ofWorker : ¬ worker'.OfKeyboard)
    (valid : state'.mode < modeCount)
    (lastKey : state'.lastKey = state.lastKey)
    (queued : state'.queued = state.queued)
    (presses : state'.presses = state.presses)
    (balances : (state'.mode + worker'.due state') % modeCount =
      (state.mode + worker.due state) % modeCount) :
    Counted mode keyboard worker' state' := by
  refine ⟨counted.ofKeyboard, ofWorker, valid, ?_⟩
  have balance := counted.balance
  have sameKeyboard := due_congr lastKey queued keyboard
  have sameQueue : state'.due = state.due := by
    rw [KeyState.due, KeyState.due, lastKey, queued]
  rw [sameKeyboard, sameQueue, presses, ← balance]
  rw [modeCount_eq] at balances ⊢
  omega

/-- An execution starts for what was queued. -/
theorem counted_beginWork
    (counted : Counted mode keyboard (.waiting (rounds + 1)) state)
    (scheduled : ¬ (state.queued = true ∧
      state.lastKey = keyLightsToggle ∧
      keyboard.program.firstRequest = some .scheduleWork)) :
    Counted mode keyboard
      (if state.queued = true then .started rounds else .waiting rounds)
      { state with queued := false } := by
  obtain ⟨ofKeyboard, -, valid, balance⟩ := counted
  have unqueued : state.queued ≠ true →
      { state with queued := false } = state := by
    intro empty
    have same : state.queued = false := by
      simpa using empty
    rw [← same]
  by_cases queued : state.queued = true
  · have sameKeyboard :
        keyboard.due { state with queued := false } =
          keyboard.due state := by
      by_cases toggle : state.lastKey = keyLightsToggle
      · cases keyboard with
        | stored rest => exact absurd ⟨queued, toggle, rfl⟩ scheduled
        | between rest => rfl
        | arrived notification rest => rfl
        | unlocked notification rest => rfl
        | _ => exact ofKeyboard.elim
      · apply due_keyboard_of_other_key toggle
        · rfl
        · exact ofKeyboard
    rw [if_pos queued]
    refine ⟨ofKeyboard, fun keyboard => keyboard, valid, ?_⟩
    rw [sameKeyboard]
    simp only [KeyPoint.due, KeyState.due, queued, true_and, Nat.add_zero,
      Bool.false_eq_true, false_and, if_false] at balance ⊢
    exact balance
  · rw [if_neg queued, unqueued queued]
    exact ⟨ofKeyboard, fun keyboard => keyboard, valid, balance⟩

/-- The key that is read is the one it was scheduled for. -/
theorem counted_getLastKey
    (counted : Counted mode keyboard (.started rounds) state) :
    Counted mode keyboard (.locking state.lastKey rounds) state :=
  counted_of_balance counted id counted.valid rfl rfl rfl rfl

theorem counted_mutexLock {key : U64}
    (counted : Counted mode keyboard (.locking key rounds) state) :
    Counted mode keyboard
      (if key = keyLightsToggle then .advancing rounds
        else .unlocking rounds)
      { state with locked := true } := by
  by_cases toggle : key = keyLightsToggle
  · have due : KeyPoint.due state (.locking key rounds) = 1 :=
      if_pos toggle
    rw [if_pos toggle]
    refine counted_of_balance counted id counted.valid ?_ ?_ ?_ ?_
    · rfl
    · rfl
    · rfl
    · rw [due]
      rfl
  · have due : KeyPoint.due state (.locking key rounds) = 0 :=
      if_neg toggle
    rw [if_neg toggle]
    refine counted_of_balance counted id counted.valid ?_ ?_ ?_ ?_
    · rfl
    · rfl
    · rfl
    · rw [due]
      rfl

/-- The mode changes once. -/
theorem counted_nextMode
    (counted : Counted mode keyboard (.advancing rounds) state) :
    Counted mode keyboard (.sending (nextMode state.mode) rounds)
      { state with mode := nextMode state.mode } := by
  refine
    counted_of_balance counted id (nextMode_lt state.mode) ?_ ?_ ?_ ?_
  · rfl
  · rfl
  · rfl
  · simp only [KeyPoint.due]
    rw [nextMode_eq counted.valid, Nat.add_zero, Nat.mod_mod]

theorem counted_mutexUnlock
    (counted : Counted mode keyboard (.unlocking rounds) state) :
    Counted mode keyboard (.waiting rounds)
      { state with locked := false } :=
  counted_of_balance counted id counted.valid rfl rfl rfl rfl

end WorkerTurns

/-! ## Runs -/

section Runs

variable {mode : Nat} {before after : Driver} {points : Party → KeyPoint}
  {point' : KeyPoint}

theorem counted_keyboard_turn (at_ : before.At KeyPoint.program points)
    (advanced : (points .keyboard).advance before.state =
      some (point', after.state))
    (kept : PressKept .keyboard before after)
    (counted : Counted mode (points .keyboard) (points .worker)
      before.state) :
    Counted mode point' (points .worker) after.state := by
  have asked := Threads.nextRequest_at at_ .keyboard
  have askedWorker := Threads.nextRequest_at at_ .worker
  generalize points .keyboard = keyboard at *
  generalize after.state = reached at advanced ⊢
  cases keyboard with
  | between rest =>
      cases rest with
      | nil => cases advanced
      | cons notification rest =>
          cases advanced
          exact counted_arrive counted
  | arrived notification rest =>
      cases advanced
      exact counted_mutexIsLocked counted (kept .mutexIsLocked asked)
  | unlocked notification rest =>
      cases advanced
      obtain ⟨unread, reader⟩ := kept (.setLastKey _) asked
      exact
        counted_setLastKey counted unread fun first =>
          reader (askedWorker.trans first)
  | stored rest =>
      cases advanced
      exact counted_scheduleWork counted
  | _ => exact counted.ofKeyboard.elim

theorem counted_worker_turn (at_ : before.At KeyPoint.program points)
    (advanced : (points .worker).advance before.state =
      some (point', after.state))
    (kept : PressKept .worker before after)
    (counted : Counted mode (points .keyboard) (points .worker)
      before.state) :
    Counted mode (points .keyboard) point' after.state := by
  have asked := Threads.nextRequest_at at_ .worker
  have askedKeyboard := Threads.nextRequest_at at_ .keyboard
  generalize points .worker = worker at *
  generalize after.state = reached at advanced ⊢
  cases worker with
  | waiting rounds =>
      cases rounds with
      | zero => cases advanced
      | succ rounds =>
          cases advanced
          have scheduled := kept .beginWork asked
          refine counted_beginWork counted fun scheduling => ?_
          exact
            scheduled
              ⟨scheduling.1, scheduling.2.1,
                askedKeyboard.trans scheduling.2.2⟩
  | started rounds =>
      cases advanced
      exact counted_getLastKey counted
  | locking key rounds =>
      cases advanced
      exact counted_mutexLock counted
  | advancing rounds =>
      cases advanced
      exact counted_nextMode counted
  | sending mode rounds =>
      cases advanced
      exact
        ⟨counted.ofKeyboard, fun keyboard => keyboard, counted.valid,
          counted.balance⟩
  | unlocking rounds =>
      cases advanced
      exact counted_mutexUnlock counted
  | _ => exact absurd trivial counted.ofWorker

def startPoints (notifications : List Notification) (rounds : Nat) :
    Party → KeyPoint
  | .keyboard => .between notifications
  | .worker => .waiting rounds

theorem at_start (notifications : List Notification) (rounds mode : Nat) :
    (start notifications rounds mode).At KeyPoint.program
      (startPoints notifications rounds) := by
  intro party
  cases party with
  | keyboard => rfl
  | worker => rfl

theorem counted_run {notifications : List Notification} {rounds : Nat}
    (valid : mode < modeCount) (schedule : List Party)
    (turns : Threads.EachTurn environment PressKept schedule
      (start notifications rounds mode)) :
    ∃ points,
      ((start notifications rounds mode).run environment schedule).At
          KeyPoint.program points ∧
        Counted mode (points .keyboard) (points .worker)
          ((start notifications rounds mode).run environment
            schedule).state := by
  let invariant (points : Party → KeyPoint) (state : KeyState) : Prop :=
    Counted mode (points .keyboard) (points .worker) state
  have initially :
      invariant (startPoints notifications rounds)
        (start notifications rounds mode).state :=
    ⟨trivial, fun keyboard => keyboard, valid, rfl⟩
  apply
    Threads.run_preserves_points KeyPoint.follows invariant ?_ schedule
      turns (at_start notifications rounds mode) initially
  intro party before after points point' at_ _ advanced kept counted
  cases party with
  | keyboard =>
      have turned := counted_keyboard_turn at_ advanced kept counted
      simpa [invariant] using turned
  | worker =>
      have turned := counted_worker_turn at_ advanced kept counted
      simpa [invariant] using turned

/-- Requests that begin a notification or an execution. -/
def KeyRequest.begins : KeyRequest → Prop
  | .arrive _ | .beginWork => True
  | _ => False

/-- No notification and no execution is in progress, and none is queued. -/
def Settled (driver : Driver) : Prop :=
  driver.state.queued = false ∧
    ∀ party request, driver.nextRequest party = some request →
      request.begins

/-- Once the work is done nothing is to come. -/
theorem due_of_settled {driver : Driver} (settled : Settled driver)
    (at_ : driver.At KeyPoint.program points) (party : Party) :
    (points party).due driver.state = 0 := by
  have begins := settled.2 party
  rw [Threads.nextRequest_at at_] at begins
  cases place : points party with
  | arrived notification rest =>
      rw [place] at begins
      exact (begins .mutexIsLocked rfl).elim
  | unlocked notification rest =>
      rw [place] at begins
      exact (begins (.setLastKey _) rfl).elim
  | stored rest =>
      rw [place] at begins
      exact (begins .scheduleWork rfl).elim
  | started rounds =>
      rw [place] at begins
      exact (begins .getLastKey rfl).elim
  | locking key rounds =>
      rw [place] at begins
      exact (begins .mutexLock rfl).elim
  | advancing rounds =>
      rw [place] at begins
      exact (begins .nextMode rfl).elim
  | _ => rfl

/-- The mode always exists, and where every turn loses no press and counts
none twice, it has advanced once for each press whenever all work is done. -/
theorem modeKey_counts (notifications : List Notification)
    (rounds : Nat) (mode : Nat) (valid : mode < modeCount)
    (schedule : List Party) :
    let reached :=
      (start notifications rounds mode).run environment schedule
    reached.state.mode < modeCount ∧
      (Threads.EachTurn environment PressKept schedule
          (start notifications rounds mode) →
        Settled reached →
        reached.state.mode =
          (mode + reached.state.presses) % modeCount) := by
  intro reached
  have validNow : reached.state.mode < modeCount := by
    apply
      Threads.run_preserves_state
        (fun state : KeyState => state.mode < modeCount)
    · intro request state now
      cases request with
      | nextMode => exact nextMode_lt state.mode
      | _ => exact now
    · exact valid
  refine ⟨validNow, fun turns settled => ?_⟩
  obtain ⟨points, at_, counted⟩ := counted_run valid schedule turns
  have nothing : reached.state.due = 0 := by
    simp only [KeyState.due, settled.1, Bool.false_eq_true, false_and,
      if_false]
  have balance := counted.balance
  rw [due_of_settled settled at_, due_of_settled settled at_] at balance
  change (reached.state.mode + 0 + 0 + reached.state.due) % modeCount =
    (mode + reached.state.presses) % modeCount at balance
  rw [nothing] at balance
  rw [← balance]
  exact (Nat.mod_eq_of_lt validNow).symm

end Runs

/-! ## Two runs -/

/-- A key that is pressed. -/
def pressed (value : U32) : Notification :=
  ⟨kbdKeycode, true, value⟩

/-- One press and one execution after it. -/
def onePress : List Party :=
  List.replicate 4 .keyboard ++ List.replicate 6 .worker

theorem modeKey_counts_one :
    ((start [pressed 0x21e] 1 6).run environment onePress).state.mode =
      (6 + ((start [pressed 0x21e] 1 6).run environment
        onePress).state.presses) % modeCount := by
  have valid : 6 < modeCount := by
    decide
  have turns : Threads.EachTurn environment PressKept onePress
      (start [pressed 0x21e] 1 6) := by
    refine ⟨?_, ?_, ?_, ?_, ?_, ?_, ?_, ?_, ?_, ?_, trivial⟩
    all_goals
      intro item asked
      cases asked
    · trivial
    · rfl
    · exact ⟨by decide, fun reading => by cases reading⟩
    · trivial
    · rintro ⟨_, _, scheduling⟩
      cases scheduling
    all_goals trivial
  have settled :
      Settled ((start [pressed 0x21e] 1 6).run environment onePress) := by
    constructor
    · decide
    · intro party request asked
      cases party <;> cases asked
  exact (modeKey_counts [pressed 0x21e] 1 6 valid onePress).2 turns settled

/-- No notification arrives while the lock is held. -/
def ArrivesUnlocked (party : Party) (before _after : Driver) : Prop :=
  match before.nextRequest party with
  | some (.arrive _) => before.state.locked = false
  | _ => True

instance (party : Party) (before after : Driver) :
    Decidable (ArrivesUnlocked party before after) := by
  unfold ArrivesUnlocked
  split <;> infer_instance

/-- A press of the mode key, a press of another key, and then an
execution. -/
def twoPresses : List Party :=
  List.replicate 8 .keyboard ++ List.replicate 4 .worker

/-- Another key pressed before the work runs hides the press of the mode
key. -/
theorem press_overwritten :
    let before := start [pressed 0x21e, pressed 30] 1 6
    let reached := before.run environment twoPresses
    Threads.EachTurn environment ArrivesUnlocked twoPresses before ∧
      Settled reached ∧
      reached.state.mode ≠ (6 + reached.state.presses) % modeCount := by
  refine ⟨by decide, ⟨by decide, ?_⟩, by decide⟩
  intro party request asked
  cases party <;> cases asked

end TuxedoDrivers.Ite.ModeKey
