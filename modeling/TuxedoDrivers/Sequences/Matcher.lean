import Mathlib.Data.List.Infix
import Mathlib.Data.List.TakeDrop

/-!
# A matcher that forgets what it has seen

A matcher keeps the number of symbols of a pattern that were matched so far.
A symbol that does not continue the match is dropped, together with all that
was matched, and is not looked at as the start of a new match.

Such a matcher only completes where the pattern ends, and it completes there
exactly if it was at the start of the pattern when the pattern began.
-/

namespace Sequences

variable {α : Type}

/-- A match at the next position has one more symbol of the pattern. -/
theorem take_succ_of_getElem? {pattern : List α} {index : Nat} {symbol : α}
    (found : pattern[index]? = some symbol) :
    pattern.take (index + 1) = pattern.take index ++ [symbol] := by
  rw [List.take_add_one, found]
  rfl

/-! ## Positions -/

/-- The symbol ends a match at this position. -/
def Completes (pattern : List α) (position : Nat) (symbol : α) : Prop :=
  pattern[position]? = some symbol ∧ position + 1 = pattern.length

theorem Completes.take_append {pattern : List α} {index : Nat}
    {symbol : α} (completes : Completes pattern index symbol) :
    pattern.take index ++ [symbol] = pattern := by
  rw [← take_succ_of_getElem? completes.1, completes.2, List.take_length]

theorem exists_completes {pattern : List α} (nonempty : pattern ≠ []) :
    ∃ index symbol, index < pattern.length ∧
      Completes pattern index symbol := by
  have positive : 0 < pattern.length := List.length_pos_iff.mpr nonempty
  obtain ⟨index, last⟩ : ∃ index, index + 1 = pattern.length :=
    ⟨pattern.length - 1, Nat.sub_add_cancel positive⟩
  have within : index < pattern.length := by omega
  exact
    ⟨index, pattern[index], within, List.getElem?_eq_getElem within, last⟩

variable [DecidableEq α]

instance (pattern : List α) (position : Nat) (symbol : α) :
    Decidable (Completes pattern position symbol) :=
  inferInstanceAs (Decidable (_ ∧ _))

/-- The position after one more symbol. -/
def advance (pattern : List α) (position : Nat) (symbol : α) : Nat :=
  if pattern[position]? = some symbol then
    if position + 1 = pattern.length then 0 else position + 1
  else 0

/-- The position after the symbols. -/
def position (pattern symbols : List α) : Nat :=
  symbols.foldl (advance pattern) 0

section Position

variable {pattern : List α}

@[simp]
theorem position_nil : position pattern [] = 0 :=
  rfl

@[simp]
theorem position_append_singleton (symbols : List α) (symbol : α) :
    position pattern (symbols ++ [symbol]) =
      advance pattern (position pattern symbols) symbol := by
  rw [position, List.foldl_append]
  rfl

theorem advance_of_found {index : Nat} {symbol : α}
    (found : pattern[index]? = some symbol)
    (unfinished : index + 1 < pattern.length) :
    advance pattern index symbol = index + 1 := by
  rw [advance, if_pos found, if_neg (Nat.ne_of_lt unfinished)]

theorem advance_lt (nonempty : pattern ≠ []) (index : Nat) (symbol : α) :
    advance pattern index symbol < pattern.length := by
  have positive : 0 < pattern.length := List.length_pos_iff.mpr nonempty
  unfold advance
  split
  case isTrue found =>
    have within : index < pattern.length :=
      (List.getElem?_eq_some_iff.mp found).1
    split
    · exact positive
    · omega
  case isFalse =>
    exact positive

theorem position_lt (nonempty : pattern ≠ []) (symbols : List α) :
    position pattern symbols < pattern.length := by
  induction symbols using List.reverseRecOn with
  | nil =>
      exact List.length_pos_iff.mpr nonempty
  | append_singleton earlier symbol =>
      rw [position_append_singleton]
      exact advance_lt nonempty _ symbol

/-- The matched symbols are the last ones, and the matcher was at the start
before them. -/
theorem exists_start (pattern symbols : List α) :
    ∃ before, symbols = before ++ pattern.take (position pattern symbols) ∧
      position pattern before = 0 := by
  induction symbols using List.reverseRecOn with
  | nil =>
      exact ⟨[], rfl, rfl⟩
  | append_singleton earlier symbol inductionHypothesis =>
      obtain ⟨before, split, start⟩ := inductionHypothesis
      rw [position_append_singleton]
      by_cases found :
          pattern[position pattern earlier]? = some symbol
      · by_cases last : position pattern earlier + 1 = pattern.length
        · have restarted :
              advance pattern (position pattern earlier) symbol = 0 := by
            rw [advance, if_pos found, if_pos last]
          refine ⟨earlier ++ [symbol], ?_, ?_⟩
          · rw [restarted, List.take_zero, List.append_nil]
          · rw [position_append_singleton, restarted]
        · have continued :
              advance pattern (position pattern earlier) symbol =
                position pattern earlier + 1 := by
            rw [advance, if_pos found, if_neg last]
          refine ⟨before, ?_, start⟩
          rw [continued, take_succ_of_getElem? found, ← List.append_assoc,
            ← split]
      · have restarted :
            advance pattern (position pattern earlier) symbol = 0 :=
          if_neg found
        refine ⟨earlier ++ [symbol], ?_, ?_⟩
        · rw [restarted, List.take_zero, List.append_nil]
        · rw [position_append_singleton, restarted]

/-- From the start, the symbols of the pattern are matched one after the
other. -/
theorem position_append_take {before : List α}
    (start : position pattern before = 0) {index : Nat}
    (unfinished : index < pattern.length) :
    position pattern (before ++ pattern.take index) = index := by
  induction index with
  | zero =>
      rw [List.take_zero, List.append_nil, start]
  | succ index inductionHypothesis =>
      have reached := inductionHypothesis (Nat.lt_of_succ_lt unfinished)
      have within : index < pattern.length := Nat.lt_of_succ_lt unfinished
      have found : pattern[index]? = some pattern[index] :=
        List.getElem?_eq_getElem within
      rw [take_succ_of_getElem? found, ← List.append_assoc,
        position_append_singleton, reached]
      exact advance_of_found found unfinished

/-- The symbols fall into blocks that the matcher leaves at its start: the
whole pattern, or a proper part of it with one symbol that does not continue
it. -/
inductive Consumed (pattern : List α) : List α → Prop where
  | nil : Consumed pattern []
  | completed {symbols : List α} (earlier : Consumed pattern symbols) :
      Consumed pattern (symbols ++ pattern)
  | dropped {symbols : List α} (earlier : Consumed pattern symbols)
      {index : Nat} (unfinished : index < pattern.length) {symbol : α}
      (differs : pattern[index]? ≠ some symbol) :
      Consumed pattern (symbols ++ (pattern.take index ++ [symbol]))

theorem position_append_pattern (nonempty : pattern ≠ [])
    {before : List α} (start : position pattern before = 0) :
    position pattern (before ++ pattern) = 0 := by
  obtain ⟨index, symbol, within, completes⟩ := exists_completes nonempty
  have reached := position_append_take start within
  calc
    position pattern (before ++ pattern) =
        position pattern ((before ++ pattern.take index) ++ [symbol]) := by
      rw [List.append_assoc, completes.take_append]
    _ = advance pattern index symbol := by
      rw [position_append_singleton, reached]
    _ = 0 := by
      rw [advance, if_pos completes.1, if_pos completes.2]

/-- The matcher is at its start exactly after whole blocks. -/
theorem position_eq_zero_iff (nonempty : pattern ≠ [])
    (symbols : List α) :
    position pattern symbols = 0 ↔ Consumed pattern symbols := by
  constructor
  · intro start
    induction length : symbols.length using Nat.strong_induction_on
      generalizing symbols with
    | _ count inductionHypothesis =>
        cases symbols using List.reverseRecOn with
        | nil =>
            exact Consumed.nil
        | append_singleton earlier symbol =>
            obtain ⟨before, split, beforeStart⟩ :=
              exists_start pattern earlier
            have shorter : before.length < count := by
              have lengths := congrArg List.length split
              simp only [List.length_append, List.length_singleton]
                at length lengths
              omega
            have consumed :=
              inductionHypothesis _ shorter before beforeStart rfl
            rw [position_append_singleton] at start
            by_cases found :
                pattern[position pattern earlier]? = some symbol
            · have last :
                  position pattern earlier + 1 = pattern.length := by
                by_contra unfinished
                rw [advance, if_pos found, if_neg unfinished] at start
                omega
              have whole := Completes.take_append ⟨found, last⟩
              rw [split, List.append_assoc, whole]
              exact consumed.completed
            · rw [split, List.append_assoc]
              exact
                consumed.dropped (position_lt nonempty earlier) found
  · intro consumed
    induction consumed with
    | nil =>
        rfl
    | completed _ inductionHypothesis =>
        exact position_append_pattern nonempty inductionHypothesis
    | dropped _ unfinished differs inductionHypothesis =>
        rw [← List.append_assoc, position_append_singleton,
          position_append_take inductionHypothesis unfinished]
        exact if_neg differs

end Position

/-! ## Occurrences -/

section Occurrences

variable {pattern : List α}

/-- The matcher completes exactly at the ends of those occurrences that
found it at the start. -/
theorem completes_iff (nonempty : pattern ≠ []) (symbols : List α)
    (symbol : α) :
    Completes pattern (position pattern symbols) symbol ↔
      ∃ before, symbols ++ [symbol] = before ++ pattern ∧
        position pattern before = 0 := by
  constructor
  · intro completes
    obtain ⟨before, split, start⟩ := exists_start pattern symbols
    refine ⟨before, ?_, start⟩
    calc
      symbols ++ [symbol] =
          before ++ (pattern.take (position pattern symbols) ++ [symbol]) :=
        by rw [← List.append_assoc, ← split]
      _ = before ++ pattern := by rw [completes.take_append]
  · rintro ⟨before, split, start⟩
    obtain ⟨index, last, within, completes⟩ := exists_completes nonempty
    have parts :
        symbols ++ [symbol] = (before ++ pattern.take index) ++ [last] := by
      rw [split, List.append_assoc, completes.take_append]
    obtain ⟨earlier, same⟩ := List.append_inj' parts rfl
    have symbolIsLast : symbol = last := List.singleton_inj.mp same
    rw [earlier, symbolIsLast, position_append_take start within]
    exact completes

/-- No occurrence is missed exactly if every occurrence finds the matcher at
the start. -/
theorem recognises_iff (nonempty : pattern ≠ []) (symbols : List α) :
    (∀ before symbol after, symbols = before ++ symbol :: after →
      (Completes pattern (position pattern before) symbol ↔
        pattern <:+ before ++ [symbol])) ↔
      ∀ before after, symbols = before ++ (pattern ++ after) →
        position pattern before = 0 := by
  constructor
  · intro recognises before after split
    obtain ⟨initial, symbol, pattern_eq⟩ :
        ∃ initial symbol, pattern = initial ++ [symbol] :=
      ⟨pattern.dropLast, pattern.getLast nonempty,
        (List.dropLast_append_getLast nonempty).symm⟩
    have here : symbols = (before ++ initial) ++ symbol :: after := by
      rw [split, pattern_eq]
      simp only [List.append_assoc, List.singleton_append]
    have whole : before ++ pattern = (before ++ initial) ++ [symbol] := by
      rw [pattern_eq, List.append_assoc]
    have completes :=
      (recognises _ _ _ here).mpr (whole ▸ List.suffix_append before pattern)
    obtain ⟨start, same, started⟩ := (completes_iff nonempty _ _).mp completes
    rw [← whole] at same
    rwa [(List.append_inj' same rfl).1]
  · intro started before symbol after split
    rw [completes_iff nonempty]
    constructor
    · rintro ⟨start, same, -⟩
      exact ⟨start, same.symm⟩
    · rintro ⟨start, same⟩
      refine ⟨start, same.symm, started start after ?_⟩
      rw [split, ← List.append_assoc, same, List.append_assoc,
        List.singleton_append]

end Occurrences

end Sequences
