import Mathlib.Data.Int.ConditionallyCompleteOrder
import TuxedoDrivers.Clevo.Flexicharger
import TuxedoDrivers.Selection.Closest

/-!
# The closest supported threshold

`array_find_closest_u8` on arrays of any length: the place of what it
returns, values that are supported, and how the result grows with the value.
-/

namespace TuxedoDrivers.Clevo

open Selection

/-! ## The loop as a search -/

/-- The value of a byte on the number line. -/
def bytePosition (byte : U8) : Int :=
  byte.toNat

theorem byteDistance_eq_abs (value candidate : U8) :
    (byteDistance value candidate : Int) =
      |bytePosition value - bytePosition candidate| := by
  rw [byteDistance, Int.natCast_natAbs, bytePosition, bytePosition]

/-- Distances compare as on the number line. -/
theorem argmin_byteDistance (value : U8) (haystack : List U8) :
    haystack.argmin (byteDistance value) =
      haystack.argmin
        (fun candidate => |bytePosition value - bytePosition candidate|) := by
  have sameOrder : ∀ kept candidate : U8,
      byteDistance value candidate < byteDistance value kept ↔
        |bytePosition value - bytePosition candidate| <
          |bytePosition value - bytePosition kept| := by
    intro kept candidate
    rw [← byteDistance_eq_abs, ← byteDistance_eq_abs, Int.ofNat_lt]
  have sameStep :
      better (byteDistance value) =
        better
          (fun candidate =>
            |bytePosition value - bytePosition candidate|) := by
    funext kept candidate
    simp only [better, sameOrder]
  cases haystack with
  | nil =>
      rfl
  | cons first rest =>
      rw [argmin_eq_foldl_better, argmin_eq_foldl_better, sameStep]

/-- The loop starts with the first element and meets it once more. -/
theorem arrayFindClosestU8_cons (value first : U8) (rest : List U8) :
    arrayFindClosestU8 value (first :: rest) =
      (rest.foldl (better (byteDistance value)) first).toNat := by
  have again := better_self (byteDistance value) first
  unfold better at again
  simp only [arrayFindClosestU8, List.foldl_cons, again]
  rfl

/-- A nonempty array: the result is what the search finds. -/
theorem exists_argmin_arrayFindClosestU8
    (value : U8) {haystack : List U8} (nonempty : haystack ≠ []) :
    ∃ found, haystack.argmin (byteDistance value) = some found ∧
      arrayFindClosestU8 value haystack = bytePosition found := by
  cases haystack with
  | nil =>
      exact absurd rfl nonempty
  | cons first rest =>
      refine ⟨_, argmin_eq_foldl_better (byteDistance value) first rest, ?_⟩
      exact arrayFindClosestU8_cons value first rest

/-! ## What is found -/

/-- The result stands at the first place of the least distance. -/
theorem exists_firstMinimum_arrayFindClosestU8
    (value : U8) {haystack : List U8} (nonempty : haystack ≠ []) :
    ∃ index : Fin haystack.length,
      arrayFindClosestU8 value haystack = (haystack.get index).toNat ∧
        FirstMinimum (byteDistance value) haystack index := by
  obtain ⟨found, search, result⟩ :=
    exists_argmin_arrayFindClosestU8 value nonempty
  obtain ⟨index, here, minimum⟩ := exists_firstMinimum_of_argmin search
  refine ⟨index, ?_, minimum⟩
  rw [here]
  exact result

/-- A supported value stays as it is. -/
theorem arrayFindClosestU8_of_mem
    {value : U8} {haystack : List U8} (member : value ∈ haystack) :
    arrayFindClosestU8 value haystack = value.toNat := by
  obtain ⟨found, search, result⟩ :=
    exists_argmin_arrayFindClosestU8 value (List.ne_nil_of_mem member)
  rw [argmin_byteDistance] at search
  rw [result]
  exact position_eq_of_argmin bytePosition member search

/-- A greater value never has a lesser threshold. -/
theorem arrayFindClosestU8_mono
    {low high : U8} (haystack : List U8) (ordered : low ≤ high) :
    arrayFindClosestU8 low haystack ≤ arrayFindClosestU8 high haystack := by
  by_cases empty : haystack = []
  · subst empty
    exact le_rfl
  · obtain ⟨lowFound, lowSearch, lowResult⟩ :=
      exists_argmin_arrayFindClosestU8 low empty
    obtain ⟨highFound, highSearch, highResult⟩ :=
      exists_argmin_arrayFindClosestU8 high empty
    rw [argmin_byteDistance] at lowSearch highSearch
    have positions : bytePosition low ≤ bytePosition high := by
      exact Int.ofNat_le.mpr ordered
    rw [lowResult, highResult]
    exact position_mono_of_argmin bytePosition positions lowSearch highSearch

/-- Every array and every value; the results of an array in any order grow
with the value. -/
theorem arrayFindClosestU8_closest (haystack : List U8) :
    (∀ value, arrayFindClosestU8 value [] = -einval) ∧
      (haystack ≠ [] → ∀ value, ∃ index : Fin haystack.length,
        arrayFindClosestU8 value haystack = (haystack.get index).toNat ∧
          FirstMinimum (byteDistance value) haystack index) ∧
      (∀ value ∈ haystack,
        arrayFindClosestU8 value haystack = value.toNat) ∧
      ∀ low high : U8, low ≤ high →
        arrayFindClosestU8 low haystack ≤
          arrayFindClosestU8 high haystack := by
  refine ⟨fun value => rfl, ?_, ?_, ?_⟩
  · intro nonempty value
    exact exists_firstMinimum_arrayFindClosestU8 value nonempty
  · intro value member
    exact arrayFindClosestU8_of_mem member
  · intro low high ordered
    exact arrayFindClosestU8_mono haystack ordered

end TuxedoDrivers.Clevo
