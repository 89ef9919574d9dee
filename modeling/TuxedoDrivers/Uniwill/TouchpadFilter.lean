import Mathlib.Tactic.IntervalCases
import TuxedoDrivers.Interaction.Runs
import TuxedoDrivers.Kernel
import TuxedoDrivers.Sequences.Matcher

/-!
# The touchpad toggle sequence

On some machines the touchpad toggle key arrives as a sequence of keyboard
bytes.  `uniwill_i8042_filter` sees every byte of the i8042 controller, keeps
how much of the sequence it has seen, swallows the two bytes in the middle and
schedules the key event work at the end.

The filter follows the matcher of the library on the keyboard bytes, so it is
sound for every stream, and it recognises a sequence exactly if it was not
already in the middle of one when the sequence began.
-/

namespace TuxedoDrivers.Uniwill

open Interaction Sequences

/-! ## The filter -/

abbrev i8042StrAuxdata : U8 := 0x20

def uniwillTouchpToggleSeq : List U8 :=
  [ 0xe0, 0x5b, -- Super down
    0x1d,       -- Control down
    0x76,       -- Zenkaku/Hankaku down
    0xf6,       -- Zenkaku/Hankaku up
    0x9d,       -- Control up
    0xe0, 0xdb ] -- Super up

/-- A byte from the controller with its status register. -/
structure I8042Byte where
  data : U8
  str : U8
  deriving DecidableEq, Repr

/-- The byte is from the AUX port. -/
def I8042Byte.IsAux (byte : I8042Byte) : Prop :=
  byte.str &&& i8042StrAuxdata ≠ 0

instance (byte : I8042Byte) : Decidable byte.IsAux :=
  inferInstanceAs (Decidable (_ ≠ _))

/-- The variable `seq_pos` after a call, whether the byte is swallowed, and
whether the key event work was scheduled. -/
structure FilterOutcome where
  seqPos : U8
  swallowed : Bool
  scheduled : Bool
  deriving DecidableEq, Repr

/-- An index outside the sequence is `none` here and compares unequal. -/
def uniwillI8042Filter (byte : I8042Byte) (seqPos : U8) : FilterOutcome :=
  if byte.IsAux then ⟨seqPos, false, false⟩
  else if uniwillTouchpToggleSeq[seqPos.toNat]? = some byte.data then
    let seqPos := seqPos + 1
    if byte.data = 0x76 ∨ byte.data = 0xf6 then ⟨seqPos, true, false⟩
    else if seqPos.toNat = uniwillTouchpToggleSeq.length then
      ⟨0, false, true⟩
    else ⟨seqPos, false, false⟩
  else ⟨0, false, false⟩

/-- `seq_pos` after a stream of bytes, from the loaded module. -/
def seqPosAfter (stream : List I8042Byte) : U8 :=
  runSteps (fun byte seqPos => (uniwillI8042Filter byte seqPos).seqPos)
    stream 0

/-- The data of the bytes that are not from the AUX port. -/
def keyboardBytes (stream : List I8042Byte) : List U8 :=
  (stream.filter fun byte => !decide byte.IsAux).map I8042Byte.data

/-! ## One byte -/

section OneByte

variable {byte : I8042Byte}

@[simp]
theorem keyboardBytes_nil : keyboardBytes [] = [] :=
  rfl

theorem keyboardBytes_append (first second : List I8042Byte) :
    keyboardBytes (first ++ second) =
      keyboardBytes first ++ keyboardBytes second := by
  rw [keyboardBytes, List.filter_append, List.map_append]
  rfl

theorem keyboardBytes_of_aux (aux : byte.IsAux) (rest : List I8042Byte) :
    keyboardBytes (byte :: rest) = keyboardBytes rest := by
  simp [keyboardBytes, aux]

theorem keyboardBytes_of_not_aux (keyboard : ¬ byte.IsAux)
    (rest : List I8042Byte) :
    keyboardBytes (byte :: rest) = byte.data :: keyboardBytes rest := by
  simp [keyboardBytes, keyboard]

theorem uniwillI8042Filter_of_aux (aux : byte.IsAux) (seqPos : U8) :
    uniwillI8042Filter byte seqPos = ⟨seqPos, false, false⟩ :=
  if_pos aux

/-- The bytes that are swallowed: the fourth and the fifth of the sequence,
each at its position. -/
def Swallows (index : Nat) (data : U8) : Prop :=
  (index = 3 ∧ data = 0x76) ∨ (index = 4 ∧ data = 0xf6)

instance (index : Nat) (data : U8) : Decidable (Swallows index data) :=
  inferInstanceAs (Decidable (_ ∨ _))

/-- On a keyboard byte the filter follows the matcher.  The early return for
a swallowed byte skips the check for the end, which neither of the two can
be. -/
theorem uniwillI8042Filter_of_not_aux (keyboard : ¬ byte.IsAux)
    {index : Nat} (within : index < uniwillTouchpToggleSeq.length) :
    uniwillI8042Filter byte (BitVec.ofNat 8 index) =
      ⟨BitVec.ofNat 8 (advance uniwillTouchpToggleSeq index byte.data),
        decide (Swallows index byte.data),
        decide (Completes uniwillTouchpToggleSeq index byte.data)⟩ := by
  obtain ⟨data, str⟩ := byte
  rw [uniwillI8042Filter, if_neg keyboard]
  by_cases found : uniwillTouchpToggleSeq[index]? = some data
  · change index < 8 at within
    interval_cases index <;> cases found <;> rfl
  · have dropped : ¬ Swallows index data := by
      rintro (⟨rfl, rfl⟩ | ⟨rfl, rfl⟩) <;> exact found rfl
    have unfinished : ¬ Completes uniwillTouchpToggleSeq index data :=
      fun completes => found completes.1
    have sameIndex : (BitVec.ofNat 8 index).toNat = index := by
      change index < 8 at within
      rw [BitVec.toNat_ofNat, Nat.mod_eq_of_lt (by omega)]
    simp only [sameIndex, found, if_false, advance, dropped, unfinished,
      decide_false]
    rfl

end OneByte

/-! ## Streams -/

theorem seqPosAfter_append_singleton (stream : List I8042Byte)
    (byte : I8042Byte) :
    seqPosAfter (stream ++ [byte]) =
      (uniwillI8042Filter byte (seqPosAfter stream)).seqPos :=
  runSteps_append _ stream [byte] 0

/-- `seq_pos` is the position of the matcher on the keyboard bytes. -/
theorem seqPosAfter_eq (stream : List I8042Byte) :
    seqPosAfter stream =
      BitVec.ofNat 8
        (position uniwillTouchpToggleSeq (keyboardBytes stream)) := by
  induction stream using List.reverseRecOn with
  | nil =>
      rfl
  | append_singleton earlier byte inductionHypothesis =>
      rw [seqPosAfter_append_singleton, inductionHypothesis,
        keyboardBytes_append]
      by_cases aux : byte.IsAux
      · rw [uniwillI8042Filter_of_aux aux, keyboardBytes_of_aux aux,
          keyboardBytes_nil, List.append_nil]
      · rw [uniwillI8042Filter_of_not_aux aux (position_lt (by decide) _),
          keyboardBytes_of_not_aux aux, keyboardBytes_nil,
          position_append_singleton]

theorem toNat_seqPosAfter (stream : List I8042Byte) :
    (seqPosAfter stream).toNat =
      position uniwillTouchpToggleSeq (keyboardBytes stream) := by
  have valid :
      position uniwillTouchpToggleSeq (keyboardBytes stream) < 8 :=
    position_lt (by decide) _
  rw [seqPosAfter_eq, BitVec.toNat_ofNat, Nat.mod_eq_of_lt (by omega)]

/-- `seq_pos` is 0 exactly after whole blocks of keyboard bytes: sequences,
and parts of one with a byte that does not continue it. -/
theorem seqPosAfter_eq_zero_iff (stream : List I8042Byte) :
    seqPosAfter stream = 0 ↔
      Consumed uniwillTouchpToggleSeq (keyboardBytes stream) := by
  rw [← position_eq_zero_iff (by decide), ← toNat_seqPosAfter]
  exact BitVec.toNat_eq

section Streams

variable (before : List I8042Byte) {byte : I8042Byte}

/-- What the filter makes of the next keyboard byte. -/
theorem filter_next (keyboard : ¬ byte.IsAux) :
    let index := position uniwillTouchpToggleSeq (keyboardBytes before)
    uniwillI8042Filter byte (seqPosAfter before) =
      ⟨seqPosAfter (before ++ [byte]),
        decide (Swallows index byte.data),
        decide (Completes uniwillTouchpToggleSeq index byte.data)⟩ := by
  intro index
  rw [seqPosAfter_append_singleton, seqPosAfter_eq,
    uniwillI8042Filter_of_not_aux keyboard (position_lt (by decide) _)]

/-- The matched part of the sequence is what the keyboard sent last. -/
theorem take_seqPosAfter_suffix :
    uniwillTouchpToggleSeq.take (seqPosAfter before).toNat <:+
      keyboardBytes before := by
  obtain ⟨start, split, -⟩ :=
    exists_start uniwillTouchpToggleSeq (keyboardBytes before)
  rw [toNat_seqPosAfter]
  exact ⟨start, split.symm⟩

theorem scheduled_iff (keyboard : ¬ byte.IsAux) :
    (uniwillI8042Filter byte (seqPosAfter before)).scheduled = true ↔
      Completes uniwillTouchpToggleSeq
        (position uniwillTouchpToggleSeq (keyboardBytes before))
        byte.data := by
  rw [filter_next before keyboard]
  exact decide_eq_true_iff

theorem keyboardBytes_next (keyboard : ¬ byte.IsAux) :
    keyboardBytes (before ++ [byte]) = keyboardBytes before ++ [byte.data] :=
  by
  rw [keyboardBytes_append, keyboardBytes_of_not_aux keyboard,
    keyboardBytes_nil]

/-- The work is only scheduled at the end of a sequence. -/
theorem suffix_of_scheduled (keyboard : ¬ byte.IsAux)
    (scheduled :
      (uniwillI8042Filter byte (seqPosAfter before)).scheduled = true) :
    uniwillTouchpToggleSeq <:+ keyboardBytes (before ++ [byte]) := by
  have completes := (scheduled_iff before keyboard).mp scheduled
  obtain ⟨start, split, -⟩ :=
    (completes_iff (by decide) _ _).mp completes
  rw [keyboardBytes_next before keyboard, split]
  exact List.suffix_append start _

/-- Only the two bytes in the middle of a sequence are swallowed, each after
the part of the sequence before it. -/
theorem suffix_of_swallowed (keyboard : ¬ byte.IsAux)
    (swallowed :
      (uniwillI8042Filter byte (seqPosAfter before)).swallowed = true) :
    (byte.data = 0x76 ∧ [0xe0, 0x5b, 0x1d] <:+ keyboardBytes before) ∨
      (byte.data = 0xf6 ∧
        [0xe0, 0x5b, 0x1d, 0x76] <:+ keyboardBytes before) := by
  have matched := take_seqPosAfter_suffix before
  rw [toNat_seqPosAfter] at matched
  rw [filter_next before keyboard, decide_eq_true_iff] at swallowed
  rcases swallowed with ⟨index, data⟩ | ⟨index, data⟩
  · rw [index] at matched
    exact Or.inl ⟨data, matched⟩
  · rw [index] at matched
    exact Or.inr ⟨data, matched⟩

end Streams

/-- For every stream and the next byte: `seq_pos` is an index of the
sequence, a byte from the AUX port changes nothing and is passed on, the work
is only scheduled at the end of a sequence, and only the two bytes in the
middle of one are swallowed. -/
theorem touchpadFilter_sound (before : List I8042Byte)
    (byte : I8042Byte) :
    let seqPos := seqPosAfter before
    let outcome := uniwillI8042Filter byte seqPos
    seqPos.toNat < uniwillTouchpToggleSeq.length ∧
      (byte.IsAux → outcome = ⟨seqPos, false, false⟩) ∧
      (outcome.scheduled = true →
        uniwillTouchpToggleSeq <:+ keyboardBytes (before ++ [byte])) ∧
      (outcome.swallowed = true →
        ¬ byte.IsAux ∧
          ((byte.data = 0x76 ∧
              [0xe0, 0x5b, 0x1d] <:+ keyboardBytes before) ∨
            (byte.data = 0xf6 ∧
              [0xe0, 0x5b, 0x1d, 0x76] <:+ keyboardBytes before))) := by
  intro seqPos outcome
  have valid : seqPos.toNat < uniwillTouchpToggleSeq.length := by
    rw [show seqPos.toNat = _ from toNat_seqPosAfter before]
    exact position_lt (by decide) _
  refine
    ⟨valid, fun aux => uniwillI8042Filter_of_aux aux seqPos, ?_, ?_⟩
  · intro scheduled
    by_cases aux : byte.IsAux
    · have passed : outcome = _ := uniwillI8042Filter_of_aux aux seqPos
      rw [passed] at scheduled
      cases scheduled
    · exact suffix_of_scheduled before aux scheduled
  · intro swallowed
    by_cases aux : byte.IsAux
    · have passed : outcome = _ := uniwillI8042Filter_of_aux aux seqPos
      rw [passed] at swallowed
      cases swallowed
    · exact ⟨aux, suffix_of_swallowed before aux swallowed⟩

/-! ## Recognition -/

/-- The work is scheduled at exactly the keyboard bytes that end a
sequence. -/
def RecognisesSequence (stream : List I8042Byte) : Prop :=
  ∀ before byte after, stream = before ++ byte :: after →
    ((uniwillI8042Filter byte (seqPosAfter before)).scheduled = true ↔
      ¬ byte.IsAux ∧
        uniwillTouchpToggleSeq <:+ keyboardBytes (before ++ [byte]))

/-- No keyboard byte that starts a sequence finds the filter in the middle of
one. -/
def SequencesStartFresh (stream : List I8042Byte) : Prop :=
  ∀ before byte after, stream = before ++ byte :: after →
    ¬ byte.IsAux →
      uniwillTouchpToggleSeq <+: keyboardBytes (byte :: after) →
        seqPosAfter before = 0

section Recognition

variable {stream : List I8042Byte}

/-- A place among the keyboard bytes is a place in the stream. -/
theorem exists_keyboardByte {earlier later : List U8} {data : U8}
    (split : keyboardBytes stream = earlier ++ data :: later) :
    ∃ before byte after, stream = before ++ byte :: after ∧
      ¬ byte.IsAux ∧ keyboardBytes before = earlier ∧ byte.data = data ∧
        keyboardBytes after = later := by
  induction stream generalizing earlier with
  | nil =>
      exact absurd split.symm (by simp)
  | cons byte rest inductionHypothesis =>
      by_cases aux : byte.IsAux
      · rw [keyboardBytes_of_aux aux] at split
        obtain ⟨before, found, after, restSplit, keyboard, earlierSame,
          dataSame, laterSame⟩ := inductionHypothesis split
        refine
          ⟨byte :: before, found, after, ?_, keyboard, ?_, dataSame,
            laterSame⟩
        · rw [restSplit, List.cons_append]
        · rw [keyboardBytes_of_aux aux, earlierSame]
      · rw [keyboardBytes_of_not_aux aux] at split
        cases earlier with
        | nil =>
            injection split with dataSame laterSame
            exact ⟨[], byte, rest, rfl, aux, rfl, dataSame, laterSame⟩
        | cons first earlier =>
            injection split with firstSame restSplit
            obtain ⟨before, found, after, streamSplit, keyboard,
              earlierSame, dataSame, laterSame⟩ :=
              inductionHypothesis restSplit
            refine
              ⟨byte :: before, found, after, ?_, keyboard, ?_, dataSame,
                laterSame⟩
            · rw [streamSplit, List.cons_append]
            · rw [keyboardBytes_of_not_aux aux, earlierSame, firstSame]

theorem keyboardBytes_split {before after : List I8042Byte}
    {byte : I8042Byte} (split : stream = before ++ byte :: after)
    (keyboard : ¬ byte.IsAux) :
    keyboardBytes stream =
      keyboardBytes before ++ byte.data :: keyboardBytes after := by
  rw [split, keyboardBytes_append, keyboardBytes_of_not_aux keyboard]

/-- The filter recognises what the matcher recognises among the keyboard
bytes. -/
theorem recognisesSequence_iff :
    RecognisesSequence stream ↔
      ∀ earlier data later,
        keyboardBytes stream = earlier ++ data :: later →
          (Completes uniwillTouchpToggleSeq
              (position uniwillTouchpToggleSeq earlier) data ↔
            uniwillTouchpToggleSeq <:+ earlier ++ [data]) := by
  constructor
  · intro recognises earlier data later split
    obtain ⟨before, byte, after, streamSplit, keyboard, rfl, rfl, -⟩ :=
      exists_keyboardByte split
    have here := recognises before byte after streamSplit
    rw [scheduled_iff before keyboard, keyboardBytes_next before keyboard]
      at here
    exact here.trans (and_iff_right keyboard)
  · intro recognises before byte after split
    by_cases aux : byte.IsAux
    · rw [uniwillI8042Filter_of_aux aux]
      exact iff_of_false Bool.false_ne_true fun ends => ends.1 aux
    · rw [scheduled_iff before aux, keyboardBytes_next before aux]
      exact
        (recognises _ _ _ (keyboardBytes_split split aux)).trans
          (and_iff_right aux).symm

theorem sequencesStartFresh_iff :
    SequencesStartFresh stream ↔
      ∀ earlier later,
        keyboardBytes stream =
            earlier ++ (uniwillTouchpToggleSeq ++ later) →
          position uniwillTouchpToggleSeq earlier = 0 := by
  constructor
  · intro fresh earlier later split
    obtain ⟨before, byte, after, streamSplit, keyboard, rfl, data, rest⟩ :=
      exists_keyboardByte split
    have begins : uniwillTouchpToggleSeq <+: keyboardBytes (byte :: after) :=
      ⟨later, by rw [keyboardBytes_of_not_aux keyboard, data, rest]; rfl⟩
    rw [← toNat_seqPosAfter,
      fresh before byte after streamSplit keyboard begins]
    rfl
  · rintro fresh before byte after split keyboard ⟨later, begins⟩
    have whole :
        keyboardBytes stream =
          keyboardBytes before ++ (uniwillTouchpToggleSeq ++ later) := by
      rw [split, keyboardBytes_append, begins]
    rw [seqPosAfter_eq, fresh _ _ whole]
    rfl

/-- Read off the stream: before each occurrence of the sequence the keyboard
sent whole sequences and parts of one that the next byte did not continue,
that byte included. -/
theorem sequencesStartFresh_iff_consumed :
    SequencesStartFresh stream ↔
      ∀ earlier later,
        keyboardBytes stream =
            earlier ++ (uniwillTouchpToggleSeq ++ later) →
          Consumed uniwillTouchpToggleSeq earlier := by
  rw [sequencesStartFresh_iff]
  refine forall_congr' fun earlier => ?_
  rw [position_eq_zero_iff (by decide) earlier]

/-- The filter recognises the sequence wherever it occurs in a stream exactly
if no occurrence begins in the middle of a match. -/
theorem recognisesSequence_iff_startFresh (stream : List I8042Byte) :
    RecognisesSequence stream ↔ SequencesStartFresh stream := by
  rw [recognisesSequence_iff, sequencesStartFresh_iff]
  exact recognises_iff (by decide) (keyboardBytes stream)

/-- After the bytes of a Super key that is held down, the sequence is not
recognised. -/
theorem sequence_missed_after_super :
    let before : List I8042Byte :=
      [0xe0, 0x5b, 0xe0, 0x5b, 0x1d, 0x76, 0xf6, 0x9d, 0xe0].map (⟨·, 0⟩)
    let last : I8042Byte := ⟨0xdb, 0⟩
    uniwillTouchpToggleSeq <:+ keyboardBytes (before ++ [last]) ∧
      (uniwillI8042Filter last (seqPosAfter before)).scheduled = false ∧
      ¬ RecognisesSequence (before ++ [last]) := by
  intro before last
  have ends : uniwillTouchpToggleSeq <:+ keyboardBytes (before ++ [last]) :=
    by decide
  have ignored :
      (uniwillI8042Filter last (seqPosAfter before)).scheduled = false := by
    decide
  refine ⟨ends, ignored, fun recognises => ?_⟩
  have scheduled :=
    (recognises before last [] rfl).mpr ⟨by decide, ends⟩
  rw [ignored] at scheduled
  cases scheduled

end Recognition

end TuxedoDrivers.Uniwill
