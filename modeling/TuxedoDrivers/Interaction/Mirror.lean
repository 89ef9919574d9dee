import TuxedoDrivers.Interaction.Runs

/-!
# A value that is copied

A device has a value that it changes by itself and announces.  A driver sets
the value, too, and keeps a copy of it.  An announcement is handled later,
when the driver may have set another value.

A driver that reads the value whenever it handles an announcement has the
right copy once none is left.  One that takes the announced value has it
exactly if it sets no other value while an announcement waits.
-/

namespace Interaction

/-- What an announcement says, and the copy that is made when it is
handled. -/
structure Handling (V A : Type) where
  announce : V → A
  copyOf : A → V → V

namespace Handling

/-- The driver reads the value. -/
def reading (V : Type) : Handling V Unit where
  announce _ := ()
  copyOf _ value := value

/-- The driver takes the announced value. -/
def taking (V : Type) : Handling V V where
  announce value := value
  copyOf announced _ := announced

end Handling

structure Mirror (V A : Type) where
  device : V
  copy : V
  /-- The announcements that wait, the oldest first. -/
  waiting : List A

inductive MirrorStep (V : Type) where
  | set (value : V)
  | change (value : V)
  | handle

namespace Mirror

variable {V A : Type}

def step (handling : Handling V A) :
    MirrorStep V → Mirror V A → Mirror V A
  | .set value, mirror => { mirror with device := value, copy := value }
  | .change value, mirror =>
      { mirror with
        device := value
        waiting := mirror.waiting ++ [handling.announce value] }
  | .handle, ⟨device, copy, []⟩ => ⟨device, copy, []⟩
  | .handle, ⟨device, _, announced :: rest⟩ =>
      ⟨device, handling.copyOf announced device, rest⟩

/-- With no announcement left the copy is the value. -/
def Agrees (mirror : Mirror V A) : Prop :=
  mirror.waiting = [] → mirror.copy = mirror.device

/-- The copy is the value once all announcements that wait are handled. -/
def Settles (handling : Handling V A) (mirror : Mirror V A) : Prop :=
  let settled :=
    runSteps (step handling)
      (List.replicate mirror.waiting.length .handle) mirror
  settled.copy = settled.device

theorem runSteps_handle (handling : Handling V A) (device copy : V)
    (waiting : List A) :
    runSteps (step handling) (List.replicate waiting.length .handle)
        ⟨device, copy, waiting⟩ =
      ⟨device,
        (waiting.getLast?.map fun announced =>
          handling.copyOf announced device).getD copy, []⟩ := by
  induction waiting generalizing copy with
  | nil =>
      rfl
  | cons announced rest inductionHypothesis =>
      rw [List.length_cons, List.replicate_succ, runSteps_cons, step,
        inductionHypothesis]
      rw [List.getLast?_cons]
      cases rest.getLast? with
      | none => rfl
      | some last => rfl

theorem settles_iff (handling : Handling V A) (mirror : Mirror V A) :
    mirror.Settles handling ↔
      (mirror.waiting.getLast?.map fun announced =>
          handling.copyOf announced mirror.device).getD mirror.copy =
        mirror.device := by
  rw [Settles, runSteps_handle]

/-! ## Reading -/

/-- A driver that reads may set the value at any time. -/
theorem agrees_step (mirrorStep : MirrorStep V) {mirror : Mirror V Unit}
    (agrees : mirror.Agrees) :
    (step (Handling.reading V) mirrorStep mirror).Agrees := by
  obtain ⟨device, copy, waiting⟩ := mirror
  cases mirrorStep with
  | set value =>
      exact fun _ => rfl
  | change value =>
      intro none
      exact absurd none (List.append_ne_nil_of_right_ne_nil _ (by simp))
  | handle =>
      cases waiting with
      | nil => exact agrees
      | cons announced rest => exact fun _ => rfl

/-! ## Taking -/

/-- While announcements wait only the value of the last is set. -/
def InOrder (mirrorStep : MirrorStep V) (mirror : Mirror V V) : Prop :=
  ∀ value, mirrorStep = .set value →
    ∀ last, mirror.waiting.getLast? = some last → last = value

/-- A driver that takes what is announced sets nothing else while
announcements wait, or has a wrong copy in the end. -/
theorem settles_step_iff (mirrorStep : MirrorStep V) {mirror : Mirror V V}
    (settles : mirror.Settles (Handling.taking V)) :
    (step (Handling.taking V) mirrorStep mirror).Settles
        (Handling.taking V) ↔
      InOrder mirrorStep mirror := by
  obtain ⟨device, copy, waiting⟩ := mirror
  rw [settles_iff] at settles ⊢
  cases mirrorStep with
  | set value =>
      have atLast : InOrder (.set value) ⟨device, copy, waiting⟩ ↔
          ∀ last, waiting.getLast? = some last → last = value := by
        constructor
        · exact fun inOrder => inOrder value rfl
        · rintro equal other ⟨rfl⟩
          exact equal
      rw [atLast]
      cases final : waiting.getLast? with
      | none => simp [step, final]
      | some last => simp [step, final, Handling.taking]
  | change value =>
      refine iff_of_true ?_ fun other isSet => nomatch isSet
      simp [step, Handling.taking]
  | handle =>
      refine iff_of_true ?_ fun other isSet => nomatch isSet
      cases waiting with
      | nil => exact settles
      | cons announced rest =>
          rw [List.getLast?_cons] at settles
          cases final : rest.getLast? with
          | none => simpa [step, final, Handling.taking] using settles
          | some last => simpa [step, final, Handling.taking] using settles

end Mirror

end Interaction
