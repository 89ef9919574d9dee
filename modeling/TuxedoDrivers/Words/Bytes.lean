import Mathlib.Tactic.Common

/-!
# Bytes of a word

A word of any width is read byte by byte, from the least significant one, and
put together again by shifts.
-/

namespace TuxedoDrivers.Words

variable {width : Nat}

/-- The byte with an index. -/
def byteAt (word : BitVec width) (index : Nat) : BitVec 8 :=
  (word >>> (8 * index)).setWidth 8

/-- The word with the given bytes, and zeros above them. -/
def packBytes (width : Nat) : List (BitVec 8) → BitVec width
  | [] => 0
  | byte :: rest => byte.setWidth width ||| packBytes width rest <<< 8

theorem getLsbD_byteAt (word : BitVec width) (index : Nat)
    {position : Nat} (bound : position < 8) :
    (byteAt word index).getLsbD position =
      word.getLsbD (8 * index + position) := by
  simp [byteAt, bound]

/-- A position is that of a bit in one of the bytes. -/
theorem getLsbD_eq_byteAt (word : BitVec width) (position : Nat) :
    word.getLsbD position =
      (byteAt word (position / 8)).getLsbD (position % 8) := by
  rw [getLsbD_byteAt word _ (Nat.mod_lt position (by decide)),
    Nat.div_add_mod]

/-- Words with the same bytes are the same. -/
theorem eq_of_byteAt_eq {first second : BitVec width}
    (sameBytes : ∀ index, 8 * index < width →
      byteAt first index = byteAt second index) :
    first = second := by
  apply BitVec.eq_of_getLsbD_eq
  intro position bound
  have inside : 8 * (position / 8) < width := by
    have below := Nat.mul_div_le position 8
    omega
  rw [getLsbD_eq_byteAt first, getLsbD_eq_byteAt second,
    sameBytes _ inside]

/-- A packed byte is read back. -/
theorem byteAt_packBytes (bytes : List (BitVec 8)) (index : Nat)
    (fits : 8 * (index + 1) ≤ width) :
    byteAt (packBytes width bytes) index = bytes.getD index 0 := by
  apply BitVec.eq_of_getLsbD_eq
  intro position bound
  rw [getLsbD_byteAt _ index bound]
  -- one more byte shifts those before it to the next index
  induction bytes generalizing index with
  | nil =>
      simp [packBytes]
  | cons byte rest inductionHypothesis =>
      have within : 8 * index + position < width := by
        omega
      rw [packBytes, BitVec.getLsbD_or, BitVec.getLsbD_shiftLeft]
      cases index with
      | zero =>
          have low : 8 * 0 + position < 8 := by
            omega
          have inWord : position < width := by
            omega
          simp [bound, inWord]
      | succ before =>
          have notLow : ¬ 8 * (before + 1) + position < 8 := by
            omega
          have shifted :
              8 * (before + 1) + position - 8 = 8 * before + position := by
            omega
          have above : byte.getLsbD (8 * (before + 1) + position) = false := by
            apply BitVec.getLsbD_of_ge
            omega
          rw [BitVec.getLsbD_setWidth, above, shifted,
            inductionHypothesis before (by omega)]
          simp [within, notLow]

end TuxedoDrivers.Words
