import Mathlib.Data.List.Nodup
import Mathlib.Logic.Function.Basic

/-!
# Key reports of an input device

Drivers report keys one change at a time and end a frame of changes by a
synchronisation.  The input core drops changes of keys that the device never
declared, changes that are none, and frames without a change.  What user
space gets are the frames that are left.

A chord presses keys in one frame and releases them in the next.  The keymap
of a device says for a scan code which key makes a chord of its own.
-/

namespace Input

variable {Key Code : Type} [DecidableEq Key] [DecidableEq Code]

inductive Report (Key : Type) where
  | key (key : Key) (pressed : Bool)
  | sync
  deriving DecidableEq, Repr

/-- A frame of changes, in their order. -/
abbrev Frame (Key : Type) : Type := List (Key × Bool)

structure Device (Key : Type) where
  declared : Key → Bool
  pressed : Key → Bool
  /-- The changes since the last synchronisation. -/
  pending : Frame Key
  /-- What user space got. -/
  frames : List (Frame Key)

namespace Device

def handle (device : Device Key) : Report Key → Device Key
  | .key key pressed =>
      if device.declared key = true ∧ device.pressed key ≠ pressed then
        { device with
          pressed := Function.update device.pressed key pressed
          pending := device.pending ++ [(key, pressed)] }
      else device
  | .sync =>
      if device.pending = [] then device
      else
        { device with
          pending := []
          frames := device.frames ++ [device.pending] }

def handleAll (device : Device Key) (reports : List (Report Key)) :
    Device Key :=
  reports.foldl handle device

/-- No key is held and nothing waits for a synchronisation. -/
structure Idle (device : Device Key) : Prop where
  released : ∀ key, device.pressed key = false
  synced : device.pending = []

/-- User space got more frames, and nothing else is different. -/
def deliver (device : Device Key) (frames : List (Frame Key)) :
    Device Key :=
  { device with frames := device.frames ++ frames }

omit [DecidableEq Key] in
theorem deliver_nil (device : Device Key) : device.deliver [] = device := by
  rw [deliver, List.append_nil]

omit [DecidableEq Key] in
theorem deliver_deliver (device : Device Key)
    (first second : List (Frame Key)) :
    (device.deliver first).deliver second =
      device.deliver (first ++ second) := by
  simp only [deliver, List.append_assoc]

omit [DecidableEq Key] in
theorem Idle.deliver {device : Device Key} (idle : device.Idle)
    (frames : List (Frame Key)) : (device.deliver frames).Idle :=
  ⟨idle.released, idle.synced⟩

theorem handleAll_append (device : Device Key)
    (first second : List (Report Key)) :
    device.handleAll (first ++ second) =
      (device.handleAll first).handleAll second :=
  List.foldl_append

end Device

/-! ## Chords -/

def chord (keys : List Key) : List (Report Key) :=
  keys.map (.key · true) ++ .sync ::
    (keys.reverse.map (.key · false) ++ [.sync])

/-- What user space gets of a chord. -/
def chordFrames (keys : List Key) : List (Frame Key) :=
  [keys.map (·, true), keys.reverse.map (·, false)]

namespace Device

/-- Changes of different keys are all taken. -/
theorem handleAll_changes {keys : List Key} (nodup : keys.Nodup)
    (pressed : Bool) (device : Device Key)
    (declared : ∀ key ∈ keys, device.declared key = true)
    (other : ∀ key ∈ keys, device.pressed key ≠ pressed) :
    device.handleAll (keys.map (.key · pressed)) =
      { device with
        pressed := fun key =>
          if key ∈ keys then pressed else device.pressed key
        pending := device.pending ++ keys.map (·, pressed) } := by
  induction keys generalizing device with
  | nil =>
      simp [handleAll]
  | cons key rest inductionHypothesis =>
      obtain ⟨notInRest, nodupRest⟩ := List.nodup_cons.mp nodup
      have taken :
          device.handle (.key key pressed) =
            { device with
              pressed := Function.update device.pressed key pressed
              pending := device.pending ++ [(key, pressed)] } :=
        if_pos
          ⟨declared key List.mem_cons_self, other key List.mem_cons_self⟩
      have otherRest :
          ∀ later ∈ rest,
            Function.update device.pressed key pressed later ≠ pressed := by
        intro later member
        have different : later ≠ key := by
          rintro rfl
          exact notInRest member
        rw [Function.update_of_ne different]
        exact other later (List.mem_cons_of_mem key member)
      have after :=
        inductionHypothesis nodupRest (device.handle (.key key pressed))
          (by
            rw [taken]
            exact fun later member =>
              declared later (List.mem_cons_of_mem key member))
          (by
            rw [taken]
            exact otherRest)
      rw [List.map_cons, handleAll, List.foldl_cons]
      refine Eq.trans after ?_
      rw [taken]
      congr 1
      · funext later
        by_cases here : later = key
        · subst here
          simp
        · simp [here]
      · simp

theorem handle_sync {device : Device Key} (changed : device.pending ≠ []) :
    device.handle .sync =
      { device with
        pending := []
        frames := device.frames ++ [device.pending] } :=
  if_neg changed

/-- A chord of declared keys is delivered whole and leaves no key held. -/
theorem handleAll_chord {device : Device Key} (idle : device.Idle)
    {keys : List Key} (someKey : keys ≠ []) (nodup : keys.Nodup)
    (declared : ∀ key ∈ keys, device.declared key = true) :
    device.handleAll (chord keys) = device.deliver (chordFrames keys) := by
  have down :=
    handleAll_changes nodup true device declared fun key _ => by
      rw [idle.released key]
      exact Bool.false_ne_true
  have nodupUp := List.nodup_reverse.mpr nodup
  rw [chord, handleAll_append, down, idle.synced, List.nil_append, handleAll,
    List.foldl_cons, handle_sync (by simpa using someKey)]
  have up :=
    handleAll_changes nodupUp false
      { device with
        pressed := fun key =>
          if key ∈ keys then true else device.pressed key
        pending := []
        frames := device.frames ++ [keys.map (·, true)] }
      (fun key member => declared key (List.mem_reverse.mp member))
      (fun key member => by simp [List.mem_reverse.mp member])
  change Device.handleAll _ _ = _
  rw [handleAll_append, up, List.nil_append, handleAll, List.foldl_cons,
    handle_sync (by simpa using someKey), List.foldl_nil, deliver,
    chordFrames]
  congr 1
  · funext key
    by_cases member : key ∈ keys
    · simp [member, idle.released]
    · simp [member]
  · exact idle.synced.symm
  · simp

end Device

/-! ## Keymaps -/

/-- An entry of a sparse keymap. -/
inductive KeyEntry (Code Key : Type) where
  | key (code : Code) (keycode : Key)
  | ignore (code : Code)
  deriving DecidableEq, Repr

def KeyEntry.code : KeyEntry Code Key → Code
  | .key code _ => code
  | .ignore code => code

/-- The key that an entry declares and reports. -/
def KeyEntry.keycode : KeyEntry Code Key → Option Key
  | .key _ keycode => some keycode
  | .ignore _ => none

/-- `sparse_keymap_entry_from_scancode`: the first entry for the code. -/
def entryFromScancode (keymap : List (KeyEntry Code Key)) (code : Code) :
    Option (KeyEntry Code Key) :=
  keymap.find? fun entry => decide (entry.code = code)

/-- `sparse_keymap_report_entry` with the value 1, released by itself. -/
def reportEntry (entry : KeyEntry Code Key) : List (Report Key) :=
  match entry with
  | .key _ keycode =>
      [.key keycode true, .sync, .key keycode false, .sync]
  | .ignore _ => []

/-- What `sparse_keymap_setup` declares. -/
def declares (keymap : List (KeyEntry Code Key)) (key : Key) : Bool :=
  keymap.any fun entry => decide (entry.keycode = some key)

/-- The key that a code stands for. -/
def keyOf (keymap : List (KeyEntry Code Key)) (code : Code) : Option Key :=
  (entryFromScancode keymap code).bind KeyEntry.keycode

/-- The reports of a code that may be unknown. -/
def reportKnown (keymap : List (KeyEntry Code Key)) (code : Code) :
    List (Report Key) :=
  (entryFromScancode keymap code).elim [] reportEntry

omit [DecidableEq Key] in
theorem reportKnown_eq (keymap : List (KeyEntry Code Key)) (code : Code) :
    reportKnown keymap code =
      (keyOf keymap code).elim [] fun key => chord [key] := by
  rw [reportKnown, keyOf]
  cases entryFromScancode keymap code with
  | none => rfl
  | some entry =>
      cases entry with
      | key code keycode => rfl
      | ignore code => rfl

theorem declares_of_keyOf {keymap : List (KeyEntry Code Key)} {code : Code}
    {key : Key} (found : keyOf keymap code = some key) :
    declares keymap key = true := by
  obtain ⟨entry, entryFound, keycode⟩ := Option.bind_eq_some_iff.mp found
  rw [declares, List.any_eq_true]
  exact
    ⟨entry, List.mem_of_find?_eq_some entryFound, decide_eq_true keycode⟩

/-- A code of the keymap is one chord of the key it stands for. -/
theorem Device.handleAll_reportKnown
    {keymap : List (KeyEntry Code Key)} {device : Device Key}
    (idle : device.Idle) (setup : device.declared = declares keymap)
    (code : Code) :
    device.handleAll (reportKnown keymap code) =
      device.deliver
        ((keyOf keymap code).elim [] fun key => chordFrames [key]) := by
  rw [reportKnown_eq]
  cases found : keyOf keymap code with
  | none =>
      exact device.deliver_nil.symm
  | some key =>
      refine
        handleAll_chord idle (List.cons_ne_nil key [])
          (List.nodup_singleton key) fun other member => ?_
      rw [List.mem_singleton.mp member, setup]
      exact declares_of_keyOf found

end Input
