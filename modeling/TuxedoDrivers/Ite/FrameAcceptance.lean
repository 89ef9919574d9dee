import TuxedoDrivers.Ite.FrameBuffer

/-!
# Frames that are reported as written

`ite8291_write_rows` makes thirteen transfers: the parameters, and for each row
an announcement and the data.  Only the results of the data are looked at, so
that a frame is reported as written although the device refused the parameters
or an announcement.
-/

namespace TuxedoDrivers.Ite

open Interaction

/-! ## Outcomes of the transfers -/

/-- A transport that gives each transfer the outcome of its place. -/
def patternTransport (pattern : Nat → Int) : HidTransport Nat :=
  fun _ place => (pattern place, place + 1)

def IsRowData : HidRequest → Prop
  | .setFeatureReport _ _ => False
  | .outputReport _ => True

/-- The data of a row follows only on a report that was accepted. -/
def Announced (first second : Event hidSignature) : Prop :=
  IsRowData second.request → (0 : Int) ≤ first.answer

/-- A frame is reported as written only if all its transfers were accepted,
and no data is sent after an announcement that failed. -/
structure FrameAccepted (pattern : Nat → Int) (rowData : RowData)
    (brightness : U8) (program : Hid Int) : Prop where
  accepted : (program.run (patternTransport pattern) 0).1 = 0 →
    transfers (patternTransport pattern) 0 program =
        frame rowData (if brightness > 0x32 then 0x32 else brightness) ∧
      ∀ event ∈ program.trace (patternTransport pattern) 0,
        (0 : Int) ≤ event.answer
  announced : (program.trace (patternTransport pattern) 0).IsChain Announced

/-! ## The rows from a place on -/

section Rows

variable (pattern : Nat → Int)

/-- The data of these many rows is accepted. -/
def DataAccepted (rows place : Nat) : Prop :=
  ∀ row < rows, 0 ≤ pattern (place + 2 * row + 1)

/-- Each of these rows is announced, if the data of the rows before it is
accepted. -/
def AnnouncementsAccepted (rows place : Nat) : Prop :=
  ∀ row < rows, DataAccepted pattern row place →
    0 ≤ pattern (place + 2 * row)

theorem dataAccepted_succ_iff (rows place : Nat) :
    DataAccepted pattern (rows + 1) place ↔
      0 ≤ pattern (place + 1) ∧ DataAccepted pattern rows (place + 2) := by
  constructor
  · intro accepted
    refine ⟨accepted 0 (Nat.succ_pos rows), fun row small => ?_⟩
    have later := accepted (row + 1) (Nat.succ_lt_succ small)
    have same : place + 2 * (row + 1) + 1 = place + 2 + 2 * row + 1 := by
      omega
    rwa [same] at later
  · rintro ⟨first, later⟩ row small
    cases row with
    | zero =>
        exact first
    | succ row =>
        have same : place + 2 * (row + 1) + 1 = place + 2 + 2 * row + 1 := by
          omega
        rw [same]
        exact later row (Nat.lt_of_succ_lt_succ small)

theorem announcementsAccepted_succ_iff (rows place : Nat) :
    AnnouncementsAccepted pattern (rows + 1) place ↔
      0 ≤ pattern place ∧
        (0 ≤ pattern (place + 1) →
          AnnouncementsAccepted pattern rows (place + 2)) := by
  constructor
  · intro accepted
    refine ⟨accepted 0 (Nat.succ_pos rows) nofun, ?_⟩
    intro first row small data
    have before : DataAccepted pattern (row + 1) place :=
      (dataAccepted_succ_iff pattern row place).mpr ⟨first, data⟩
    have later := accepted (row + 1) (Nat.succ_lt_succ small) before
    have same : place + 2 * (row + 1) = place + 2 + 2 * row := by
      omega
    rwa [same] at later
  · rintro ⟨first, later⟩ row small data
    cases row with
    | zero =>
        exact first
    | succ row =>
        obtain ⟨firstData, before⟩ :=
          (dataAccepted_succ_iff pattern row place).mp data
        have same : place + 2 * (row + 1) = place + 2 + 2 * row := by
          omega
        rw [same]
        exact later firstData row (Nat.lt_of_succ_lt_succ small) before

/-! ## The loop -/

variable (rowData : RowData)

def announceRequest (row : Fin ite8291NrRows) : HidRequest :=
  .setFeatureReport 0x16
    [0x16, 0x00, BitVec.ofNat 8 row, 0x00, 0x00, 0x00, 0x00, 0x00]

def dataRequest (row : Fin ite8291NrRows) : HidRequest :=
  .outputReport (List.ofFn (rowData row))

theorem trace_writeRowsLoop_cons (row : Fin ite8291NrRows)
    (rest : List (Fin ite8291NrRows)) (result : Int) (place : Nat) :
    (writeRowsLoop rowData (row :: rest) result).trace
        (patternTransport pattern) place =
      ⟨announceRequest row, pattern place⟩ ::
        ⟨dataRequest rowData row, pattern (place + 1)⟩ ::
          if pattern (place + 1) < 0 then []
          else (writeRowsLoop rowData rest (pattern (place + 1))).trace
            (patternTransport pattern) (place + 2) := by
  change ⟨announceRequest row, pattern place⟩ ::
    ⟨dataRequest rowData row, pattern (place + 1)⟩ ::
      (if pattern (place + 1) < 0 then pure (pattern (place + 1))
        else writeRowsLoop rowData rest (pattern (place + 1))).trace
          (patternTransport pattern) (place + 2) = _
  rw [Program.trace_ite]
  rfl

theorem run_writeRowsLoop_cons (row : Fin ite8291NrRows)
    (rest : List (Fin ite8291NrRows)) (result : Int) (place : Nat) :
    ((writeRowsLoop rowData (row :: rest) result).run
        (patternTransport pattern) place).1 =
      if pattern (place + 1) < 0 then pattern (place + 1)
      else ((writeRowsLoop rowData rest (pattern (place + 1))).run
        (patternTransport pattern) (place + 2)).1 := by
  change ((if pattern (place + 1) < 0 then pure (pattern (place + 1))
    else writeRowsLoop rowData rest (pattern (place + 1))).run
      (patternTransport pattern) (place + 2)).1 = _
  rw [Program.run_ite]
  split <;> rfl

/-- The result of the loop tells whether the data of all rows was accepted. -/
theorem result_writeRowsLoop_nonneg_iff (rows : List (Fin ite8291NrRows))
    {result : Int} (place : Nat) (nonneg : 0 ≤ result) :
    0 ≤ ((writeRowsLoop rowData rows result).run (patternTransport pattern)
        place).1 ↔
      DataAccepted pattern rows.length place := by
  induction rows generalizing result place with
  | nil =>
      exact iff_of_true nonneg nofun
  | cons row rest inductionHypothesis =>
      rw [run_writeRowsLoop_cons, List.length_cons, dataAccepted_succ_iff]
      by_cases refused : pattern (place + 1) < 0
      · rw [if_pos refused]
        apply iff_of_false
        · omega
        · intro accepted
          exact absurd refused (Int.not_lt.mpr accepted.1)
      · have first : 0 ≤ pattern (place + 1) := Int.not_lt.mp refused
        rw [if_neg refused, inductionHypothesis (place + 2) first,
          and_iff_right first]

/-- What follows a report in the loop is announced as it has to be exactly if
the announcements are accepted. -/
theorem isChain_writeRowsLoop_iff (rows : List (Fin ite8291NrRows))
    (result : Int) (place : Nat) (before : Event hidSignature) :
    (before :: (writeRowsLoop rowData rows result).trace
        (patternTransport pattern) place).IsChain Announced ↔
      AnnouncementsAccepted pattern rows.length place := by
  induction rows generalizing result place before with
  | nil =>
      exact iff_of_true (List.IsChain.singleton _) nofun
  | cons row rest inductionHypothesis =>
      have announcement : Announced before
          ⟨announceRequest row, pattern place⟩ := nofun
      have data : Announced ⟨announceRequest row, pattern place⟩
          ⟨dataRequest rowData row, pattern (place + 1)⟩ ↔
            0 ≤ pattern place :=
        ⟨fun announced => announced trivial, fun accepted _ => accepted⟩
      rw [trace_writeRowsLoop_cons, List.length_cons,
        announcementsAccepted_succ_iff, List.isChain_cons_cons,
        List.isChain_cons_cons, and_iff_right announcement, data]
      apply and_congr_right
      intro _
      by_cases refused : pattern (place + 1) < 0
      · rw [if_pos refused]
        exact
          iff_of_true (List.IsChain.singleton _) fun accepted =>
            absurd refused (Int.not_lt.mpr accepted)
      · have first : 0 ≤ pattern (place + 1) := Int.not_lt.mp refused
        rw [if_neg refused, inductionHypothesis, forall_prop_of_true first]

/-- Where the data of all rows is accepted, so is everything else exactly if
the announcements are. -/
theorem accepted_writeRowsLoop_iff (rows : List (Fin ite8291NrRows))
    (result : Int) (place : Nat)
    (data : DataAccepted pattern rows.length place) :
    (∀ event ∈ (writeRowsLoop rowData rows result).trace
        (patternTransport pattern) place, (0 : Int) ≤ event.answer) ↔
      AnnouncementsAccepted pattern rows.length place := by
  induction rows generalizing result place with
  | nil =>
      exact iff_of_true nofun nofun
  | cons row rest inductionHypothesis =>
      obtain ⟨first, later⟩ := (dataAccepted_succ_iff _ _ _).mp data
      rw [trace_writeRowsLoop_cons, List.length_cons,
        announcementsAccepted_succ_iff, if_neg (Int.not_lt.mpr first),
        List.forall_mem_cons, List.forall_mem_cons,
        inductionHypothesis _ _ later, forall_prop_of_true first,
        and_iff_right first]

/-- Then all rows were transmitted in order. -/
theorem transfers_writeRowsLoop_of_data (rows : List (Fin ite8291NrRows))
    (result : Int) (place : Nat)
    (data : DataAccepted pattern rows.length place) :
    transfers (patternTransport pattern) place
        (writeRowsLoop rowData rows result) =
      rows.flatMap (rowFrame rowData) := by
  induction rows generalizing result place with
  | nil =>
      rfl
  | cons row rest inductionHypothesis =>
      obtain ⟨first, later⟩ := (dataAccepted_succ_iff _ _ _).mp data
      have rest := inductionHypothesis (pattern (place + 1)) (place + 2) later
      rw [transfers] at rest
      rw [transfers, trace_writeRowsLoop_cons, if_neg (Int.not_lt.mpr first),
        List.map_cons, List.map_cons, rest]
      rfl

end Rows

/-! ## Frames -/

section Frames

variable (pattern : Nat → Int)

/-- The parameters are accepted if the data of all rows is, and every row that
is reached is announced. -/
structure ReportsAccepted : Prop where
  parameters : DataAccepted pattern ite8291NrRows 1 → 0 ≤ pattern 0
  announcements : AnnouncementsAccepted pattern ite8291NrRows 1

variable (rowData : RowData) (brightness : U8)

theorem trace_ite8291WriteRows :
    (ite8291WriteRows rowData brightness).trace (patternTransport pattern)
        0 =
      ⟨.setFeatureReport 0x08 [0x08, 0x02, 0x33, 0x00,
          if brightness > 0x32 then 0x32 else brightness, 0x00, 0x00, 0x00],
          pattern 0⟩ ::
        (writeRowsLoop rowData (List.finRange ite8291NrRows) 0).trace
          (patternTransport pattern) 1 := by
  rw [ite8291WriteRows, Program.trace_bind, Program.trace_bind,
    Program.trace_pure, List.append_nil]
  rfl

theorem result_ite8291WriteRows_eq_zero_iff :
    ((ite8291WriteRows rowData brightness).run (patternTransport pattern)
        0).1 = 0 ↔
      DataAccepted pattern ite8291NrRows 1 := by
  have loop := result_writeRowsLoop_nonneg_iff pattern rowData
    (List.finRange ite8291NrRows) 1 (Int.le_refl 0)
  rw [List.length_finRange] at loop
  rw [← loop, ite8291WriteRows, Program.run_bind, Program.run_bind,
    Program.run_pure]
  have place : ((ite8291WriteControl #v[0x08, 0x02, 0x33, 0x00,
      if brightness > 0x32 then 0x32 else brightness, 0x00, 0x00,
        0x00]).run (patternTransport pattern) 0).2 = 1 := rfl
  rw [place]
  split <;> omega

theorem frameAccepted_ite8291WriteRows_iff :
    FrameAccepted pattern rowData brightness
        (ite8291WriteRows rowData brightness) ↔
      ReportsAccepted pattern := by
  have rows : (List.finRange ite8291NrRows).length = ite8291NrRows :=
    List.length_finRange
  have result := result_ite8291WriteRows_eq_zero_iff pattern rowData brightness
  have trace := trace_ite8291WriteRows pattern rowData brightness
  have announced := isChain_writeRowsLoop_iff pattern rowData
    (List.finRange ite8291NrRows) 0 1
  rw [rows] at announced
  constructor
  · intro frameAccepted
    have chain := frameAccepted.announced
    rw [trace, announced] at chain
    refine ⟨fun data => ?_, chain⟩
    have all := (frameAccepted.accepted (result.mpr data)).2
    rw [trace, List.forall_mem_cons] at all
    exact all.1
  · intro reports
    refine ⟨fun written => ?_, ?_⟩
    · have data := result.mp written
      have loopData :
          DataAccepted pattern (List.finRange ite8291NrRows).length 1 := by
        rw [rows]
        exact data
      have announcements :
          AnnouncementsAccepted pattern
            (List.finRange ite8291NrRows).length 1 := by
        rw [rows]
        exact reports.announcements
      have transmitted := transfers_writeRowsLoop_of_data pattern rowData
        (List.finRange ite8291NrRows) 0 1 loopData
      rw [transfers] at transmitted
      refine ⟨?_, ?_⟩
      · rw [transfers, trace, List.map_cons, transmitted]
        rfl
      · rw [trace, List.forall_mem_cons]
        exact
          ⟨reports.parameters data,
            (accepted_writeRowsLoop_iff pattern rowData _ 0 1 loopData).mpr
              announcements⟩
    · rw [trace, announced]
      exact reports.announcements

/-- So it is for the state of a keyboard, and when it is resumed. -/
theorem frameAccepted_iff (data : Ite8291Data) :
    (FrameAccepted pattern rowData brightness
        (ite8291WriteRows rowData brightness) ↔ ReportsAccepted pattern) ∧
      (FrameAccepted pattern data.deviceData.rowData
        data.deviceData.brightness (ite8291PerkeyWriteState data) ↔
          ReportsAccepted pattern) ∧
      (FrameAccepted pattern data.deviceData.rowData
        data.deviceData.brightness (driverResumeCallb data) ↔
          ReportsAccepted pattern) :=
  ⟨frameAccepted_ite8291WriteRows_iff pattern _ _,
    frameAccepted_ite8291WriteRows_iff pattern _ _,
    frameAccepted_ite8291WriteRows_iff pattern _ _⟩

end Frames

/-- The announcement of the second row, the fourth transfer, is refused. -/
def secondAnnouncementRefused : Nat → Int :=
  fun place => if place = 3 then -eio else 8

/-- The frame is reported as written, and the data of the second row is sent
after the announcement that failed. -/
theorem refused_announcement_is_ignored :
    ((ite8291WriteRows (fun _ _ => 0) 0x32).run
        (patternTransport secondAnnouncementRefused) 0).1 = 0 ∧
      ¬ FrameAccepted secondAnnouncementRefused (fun _ _ => 0) 0x32
        (ite8291WriteRows (fun _ _ => 0) 0x32) := by
  have written : ((ite8291WriteRows (fun _ _ => 0) 0x32).run
      (patternTransport secondAnnouncementRefused) 0).1 = 0 := by
    decide
  refine ⟨written, fun frameAccepted => ?_⟩
  exact absurd (frameAccepted.accepted written).2 (by decide +kernel)

end TuxedoDrivers.Ite
