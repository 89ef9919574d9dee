import Mathlib.Algebra.Order.Ring.Abs
import Mathlib.Data.List.MinMax
import Mathlib.Tactic.Linarith

/-!
# Searches for the closest element

A loop that keeps the best candidate so far finds the first minimum of a
list.  When what it minimises is the distance to a target, a greater target
never gives a lesser element.
-/

namespace TuxedoDrivers.Selection

/-! ## First minima -/

section FirstMinimum

variable {α β : Type*} [LinearOrder β]

/-- The better of two candidates; the earlier one on a tie. -/
def better (cost : α → β) (kept candidate : α) : α :=
  if cost candidate < cost kept then candidate else kept

theorem better_self (cost : α → β) (candidate : α) :
    better cost candidate candidate = candidate := by
  rw [better, if_neg (lt_irrefl (cost candidate))]

/-- The loop is the search of the first minimum. -/
theorem argmin_eq_foldl_better
    (cost : α → β) (first : α) (rest : List α) :
    (first :: rest).argmin cost =
      some (rest.foldl (better cost) first) := by
  induction rest using List.reverseRecOn with
  | nil =>
      exact List.argmin_singleton
  | append_singleton shorter candidate inductionHypothesis =>
      rw [← List.cons_append, List.argmin_concat, inductionHypothesis,
        List.foldl_append]
      simp only [List.foldl_cons, List.foldl_nil, better]
      split <;> rfl

theorem idxOf_get_le [DecidableEq α] (candidates : List α)
    (index : Fin candidates.length) :
    candidates.idxOf (candidates.get index) ≤ index := by
  by_contra later
  rw [not_le] at later
  have different := List.not_of_lt_findIdx later
  simp at different

/-- The place of the first of the cheapest elements. -/
structure FirstMinimum
    (cost : α → β) (candidates : List α) (index : Fin candidates.length) :
    Prop where
  cheapest : ∀ other : Fin candidates.length,
    cost (candidates.get index) ≤ cost (candidates.get other)
  earliest : ∀ earlier : Fin candidates.length, earlier < index →
    cost (candidates.get index) < cost (candidates.get earlier)

theorem exists_firstMinimum_of_argmin
    {cost : α → β} {candidates : List α} {found : α}
    (search : candidates.argmin cost = some found) :
    ∃ index, candidates.get index = found ∧
      FirstMinimum cost candidates index := by
  classical
  obtain ⟨member, cheapest, earliest⟩ := List.argmin_eq_some_iff.mp search
  have bound : candidates.idxOf found < candidates.length :=
    List.idxOf_lt_length_iff.mpr member
  have here : candidates.get ⟨candidates.idxOf found, bound⟩ = found := by
    exact List.idxOf_get bound
  refine ⟨⟨candidates.idxOf found, bound⟩, here, ?_, ?_⟩
  · intro other
    rw [here]
    exact cheapest _ (List.get_mem candidates other)
  · intro earlier before
    rw [here]
    by_contra notCheaper
    have notBefore :
        candidates.idxOf found ≤
          candidates.idxOf (candidates.get earlier) :=
      earliest _ (List.get_mem candidates earlier)
        (le_of_not_gt notCheaper)
    have atMost := idxOf_get_le candidates earlier
    have strictlyBefore : earlier.val < candidates.idxOf found := before
    omega

end FirstMinimum

/-! ## Distances to a target -/

section Distance

variable {R : Type*} [CommRing R] [LinearOrder R] [IsStrictOrderedRing R]

/-- Two targets and the nearest points of each: the greater target has the
greater point. -/
theorem le_of_nearest
    {low high lowPoint highPoint : R} (ordered : low < high)
    (lowNearest : |low - lowPoint| ≤ |low - highPoint|)
    (highNearest : |high - highPoint| ≤ |high - lowPoint|) :
    lowPoint ≤ highPoint := by
  by_contra crossed
  rw [not_le] at crossed
  have lowMiddle : lowPoint + highPoint ≤ 2 * low := by
    have squares := sq_le_sq.mpr lowNearest
    nlinarith
  have highMiddle : 2 * high ≤ lowPoint + highPoint := by
    have squares := sq_le_sq.mpr highNearest
    nlinarith
  linarith

variable {α : Type*} (position : α → R)

/-- The position found grows with the target, whatever the order of the
list. -/
theorem position_mono_of_argmin
    {candidates : List α} {low high : R} {lowFound highFound : α}
    (ordered : low ≤ high)
    (lowSearch :
      candidates.argmin (fun candidate => |low - position candidate|) =
        some lowFound)
    (highSearch :
      candidates.argmin (fun candidate => |high - position candidate|) =
        some highFound) :
    position lowFound ≤ position highFound := by
  rcases ordered.lt_or_eq with below | rfl
  · have lowMember : lowFound ∈ candidates := List.argmin_mem lowSearch
    have highMember : highFound ∈ candidates := List.argmin_mem highSearch
    have lowNearest := List.le_of_mem_argmin highMember lowSearch
    have highNearest := List.le_of_mem_argmin lowMember highSearch
    exact le_of_nearest below lowNearest highNearest
  · rw [Option.some.inj (lowSearch.symm.trans highSearch)]

/-- A target that is in the list is found. -/
theorem position_eq_of_argmin
    {candidates : List α} {target found : α}
    (member : target ∈ candidates)
    (search :
      candidates.argmin
        (fun candidate => |position target - position candidate|) =
          some found) :
    position found = position target := by
  have nearest := List.le_of_mem_argmin member search
  rw [sub_self, abs_zero] at nearest
  have zero := abs_nonpos_iff.mp nearest
  exact (sub_eq_zero.mp zero).symm

end Distance

end TuxedoDrivers.Selection
