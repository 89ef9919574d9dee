import Mathlib.Data.List.Induction
import Mathlib.Logic.Function.Basic

/-!
# Memory after a list of writes

A memory is a function of its addresses.  After writes made one after the
other an address has the content that was written to it last, or, if none
was, the content that it had before.
-/

namespace Interaction

section Writes

variable {Address Data : Type} [DecidableEq Address]

/-- The memory after writes, in order. -/
def applyWrites (writes : List (Address × Data)) (memory : Address → Data) :
    Address → Data :=
  writes.foldl
    (fun written write => Function.update written write.1 write.2) memory

/-- What was written to an address last. -/
def lastWrite (address : Address) (writes : List (Address × Data)) :
    Option Data :=
  (writes.reverse.find? fun write => write.1 = address).map Prod.snd

theorem applyWrites_append (first second : List (Address × Data))
    (memory : Address → Data) :
    applyWrites (first ++ second) memory =
      applyWrites second (applyWrites first memory) :=
  List.foldl_append

theorem applyWrites_apply (writes : List (Address × Data))
    (memory : Address → Data) (address : Address) :
    applyWrites writes memory address =
      (lastWrite address writes).getD (memory address) := by
  induction writes using List.reverseRecOn with
  | nil =>
      rfl
  | append_singleton writes write inductionHypothesis =>
      rw [applyWrites_append, lastWrite, List.reverse_append]
      by_cases same : write.1 = address
      · cases same
        simp [applyWrites]
      · have other : address ≠ write.1 := fun equal => same equal.symm
        simp only [applyWrites, List.foldl_cons, List.foldl_nil,
          Function.update_of_ne other, List.reverse_cons, List.reverse_nil,
          List.nil_append, List.singleton_append, List.find?_cons, same,
          decide_false]
        exact inductionHypothesis

theorem mem_of_lastWrite {address : Address}
    {writes : List (Address × Data)} {data : Data}
    (found : lastWrite address writes = some data) :
    (address, data) ∈ writes := by
  obtain ⟨write, last, rfl⟩ := Option.map_eq_some_iff.mp found
  have same : write.1 = address := by
    simpa using List.find?_some last
  rw [← same]
  exact List.mem_reverse.mp (List.mem_of_find?_eq_some last)

end Writes

end Interaction
