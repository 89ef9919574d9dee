import Mathlib.Data.List.FinRange
import TuxedoDrivers.Interaction.Runs
import TuxedoDrivers.Ite.Ite8291

/-!
# The rows of a per-key keyboard and what is transmitted

Over any run of changes, `buffer_input` writes and power transitions, the
rows show for every LED the intensities last written to it, and a keyboard
that is awake and not collecting has been sent the rows as they are.
-/

namespace TuxedoDrivers.Ite

open Interaction

/-! ## The layout of a row -/

/-- The place of a LED in its row for a plane: blue, green, then red. -/
def cell (plane : Fin 3) (column : Fin ite8291LedsPerRowMax) :
    Fin ite8291RowDataLength :=
  ⟨2 + 21 * plane + column, by
    have small := column.isLt
    simp only [ite8291LedsPerRowMax] at small
    simp only [ite8291RowDataLength, ite8291RowDataPadding,
      ite8291LedsPerRowMax]
    omega⟩

/-- The byte of a colour in a plane. -/
def Colour.plane (colour : Colour) : Fin 3 → U8
  | 0 => colour.blue
  | 1 => colour.green
  | 2 => colour.red

/-- Two LEDs share no cell. -/
theorem cell_eq_iff {plane plane' : Fin 3}
    {column column' : Fin ite8291LedsPerRowMax} :
    cell plane column = cell plane' column' ↔
      plane = plane' ∧ column = column' := by
  have small := column.isLt
  have small' := column'.isLt
  simp only [ite8291LedsPerRowMax] at small small'
  simp only [cell, Fin.ext_iff]
  omega

/-- The two bytes of padding belong to no LED. -/
theorem two_le_cell (plane : Fin 3) (column : Fin ite8291LedsPerRowMax) :
    2 ≤ (cell plane column : Nat) := by
  simp only [cell]
  omega

/-- The scaled colour of a LED in its place. -/
def scaledFor (device : Ite8291Device) (row : Fin ite8291NrRows)
    (column : Fin ite8291LedsPerRowMax) (colour : Colour) : Colour :=
  colorScaling device colour true (BitVec.ofNat 8 row)
    (BitVec.ofNat 8 column)

/-- The cells of one LED get its colour, and no other cell changes. -/
theorem rowDataSet_apply (device : Ite8291Device) (rowData : RowData)
    (row : Fin ite8291NrRows) (column : Fin ite8291LedsPerRowMax)
    (colour : Colour) (r : Fin ite8291NrRows)
    (k : Fin ite8291RowDataLength) :
    (rowDataSet device rowData (row : Nat) (column : Nat) colour).2 r k =
      if r = row ∧ k = cell 0 column then
        (scaledFor device row column colour).blue
      else if r = row ∧ k = cell 1 column then
        (scaledFor device row column colour).green
      else if r = row ∧ k = cell 2 column then
        (scaledFor device row column colour).red
      else rowData r k := by
  have rowBounds : ¬ (((row : Nat) : Int) < 0 ∨
      ((row : Nat) : Int) ≥ ite8291NrRows) := by
    have := row.isLt
    omega
  have columnBounds : ¬ (((column : Nat) : Int) < 0 ∨
      ((column : Nat) : Int) ≥ ite8291LedsPerRowMax) := by
    have := column.isLt
    omega
  have sameRow : ((r : Nat) : Int) = (row : Nat) ↔ r = row := by
    rw [Fin.ext_iff, Int.natCast_inj]
  have blue : ((k : Nat) : Int) =
      ite8291RowDataPadding + 0 * ite8291LedsPerRowMax + (column : Nat) ↔
        k = cell 0 column := by
    simp only [Fin.ext_iff, cell, ite8291RowDataPadding]
    omega
  have green : ((k : Nat) : Int) =
      ite8291RowDataPadding + 1 * ite8291LedsPerRowMax + (column : Nat) ↔
        k = cell 1 column := by
    simp only [Fin.ext_iff, cell, ite8291RowDataPadding,
      ite8291LedsPerRowMax]
    omega
  have red : ((k : Nat) : Int) =
      ite8291RowDataPadding + 2 * ite8291LedsPerRowMax + (column : Nat) ↔
        k = cell 2 column := by
    simp only [Fin.ext_iff, cell, ite8291RowDataPadding,
      ite8291LedsPerRowMax]
    omega
  simp only [rowDataSet, if_neg rowBounds, if_neg columnBounds,
    RowData.write, sameRow, BitVec.ofInt_natCast, blue, green, red,
    scaledFor]

section SetRow

variable (device : Ite8291Device) (rowData : RowData)
  (row : Fin ite8291NrRows) (column : Fin ite8291LedsPerRowMax)
  (colour : Colour)

theorem rowDataSet_cell (r : Fin ite8291NrRows) (plane : Fin 3)
    (c : Fin ite8291LedsPerRowMax) :
    (rowDataSet device rowData (row : Nat) (column : Nat) colour).2 r
        (cell plane c) =
      if r = row ∧ c = column then
        (scaledFor device row column colour).plane plane
      else rowData r (cell plane c) := by
  rw [rowDataSet_apply]
  simp only [cell_eq_iff]
  by_cases here : r = row ∧ c = column
  · obtain ⟨rfl, rfl⟩ := here
    match plane with
    | 0 => simp [Colour.plane]
    | 1 => simp [Colour.plane]
    | 2 => simp [Colour.plane]
  · have elsewhere : ∀ other : Fin 3,
        ¬ (r = row ∧ plane = other ∧ c = column) :=
      fun other at_ => here ⟨at_.1, at_.2.2⟩
    simp only [if_neg (elsewhere _), if_neg here]

/-- A byte that is none of the three of a LED is kept. -/
theorem rowDataSet_other {r : Fin ite8291NrRows}
    {k : Fin ite8291RowDataLength}
    (other : ∀ plane, ¬ (r = row ∧ k = cell plane column)) :
    (rowDataSet device rowData (row : Nat) (column : Nat) colour).2 r k =
      rowData r k := by
  rw [rowDataSet_apply, if_neg (other 0), if_neg (other 1),
    if_neg (other 2)]

theorem rowDataSet_padding (r : Fin ite8291NrRows)
    {k : Fin ite8291RowDataLength} (padding : (k : Nat) < 2) :
    (rowDataSet device rowData (row : Nat) (column : Nat) colour).2 r k =
      rowData r k := by
  apply rowDataSet_other
  rintro plane ⟨-, rfl⟩
  have := two_le_cell plane column
  omega

end SetRow

/-! ## The rows after the probe -/

section DefaultRows

variable (device : Ite8291Device)

/-- The default colour in some columns of a row. -/
def setColumns (i : Fin ite8291NrRows)
    (columns : List (Fin ite8291LedsPerRowMax)) (rowData : RowData) :
    RowData :=
  columns.foldl
    (fun rowData j =>
      (rowDataSet device rowData (i : Nat) (j : Nat)
        ite8291KbColorDefault).2)
    rowData

theorem setColumns_cell (i : Fin ite8291NrRows)
    (columns : List (Fin ite8291LedsPerRowMax)) (rowData : RowData)
    (r : Fin ite8291NrRows) (plane : Fin 3)
    (c : Fin ite8291LedsPerRowMax) :
    setColumns device i columns rowData r (cell plane c) =
      if r = i ∧ c ∈ columns then
        (scaledFor device r c ite8291KbColorDefault).plane plane
      else rowData r (cell plane c) := by
  induction columns generalizing rowData with
  | nil =>
      simp [setColumns]
  | cons j rest inductionHypothesis =>
      have step :
          setColumns device i (j :: rest) rowData =
            setColumns device i rest
              (rowDataSet device rowData (i : Nat) (j : Nat)
                ite8291KbColorDefault).2 :=
        rfl
      rw [step, inductionHypothesis, rowDataSet_cell]
      by_cases inRow : r = i
      · subst inRow
        by_cases first : c = j
        · subst first
          simp
        · simp [first]
      · simp [inRow]

theorem setColumns_padding (i : Fin ite8291NrRows)
    (columns : List (Fin ite8291LedsPerRowMax)) (rowData : RowData)
    (r : Fin ite8291NrRows) {k : Fin ite8291RowDataLength}
    (padding : (k : Nat) < 2) :
    setColumns device i columns rowData r k = rowData r k := by
  induction columns generalizing rowData with
  | nil =>
      rfl
  | cons j rest inductionHypothesis =>
      exact
        (inductionHypothesis _).trans
          (rowDataSet_padding device rowData i j _ r padding)

/-- The default colour in some rows. -/
def setRows (rows : List (Fin ite8291NrRows)) (rowData : RowData) :
    RowData :=
  rows.foldl
    (fun rowData i =>
      setColumns device i (List.finRange ite8291LedsPerRowMax) rowData)
    rowData

theorem setRows_cell (rows : List (Fin ite8291NrRows)) (rowData : RowData)
    (r : Fin ite8291NrRows) (plane : Fin 3)
    (c : Fin ite8291LedsPerRowMax) :
    setRows device rows rowData r (cell plane c) =
      if r ∈ rows then
        (scaledFor device r c ite8291KbColorDefault).plane plane
      else rowData r (cell plane c) := by
  induction rows generalizing rowData with
  | nil =>
      simp [setRows]
  | cons i rest inductionHypothesis =>
      have step :
          setRows device (i :: rest) rowData =
            setRows device rest
              (setColumns device i (List.finRange ite8291LedsPerRowMax)
                rowData) :=
        rfl
      rw [step, inductionHypothesis, setColumns_cell]
      by_cases first : r = i
      · subst first
        simp [List.mem_finRange]
      · simp [first]

theorem setRows_padding (rows : List (Fin ite8291NrRows))
    (rowData : RowData) (r : Fin ite8291NrRows)
    {k : Fin ite8291RowDataLength} (padding : (k : Nat) < 2) :
    setRows device rows rowData r k = rowData r k := by
  induction rows generalizing rowData with
  | nil =>
      rfl
  | cons i rest inductionHypothesis =>
      exact
        (inductionHypothesis _).trans
          (setColumns_padding device i _ rowData r padding)

theorem defaultRowData_eq_setRows :
    defaultRowData device =
      setRows device (List.finRange ite8291NrRows) (fun _ _ => 0) :=
  rfl

end DefaultRows

/-! ## What a keyboard shows -/

/-- A run of the driver: its data, whether the device sleeps, the state of the
transport, and all that was transmitted. -/
structure Keyboard (σ : Type) where
  data : Ite8291Data
  suspended : Bool
  usb : σ
  transmitted : List HidRequest

/-- What the user has asked for. -/
structure View where
  intensities :
    Fin ite8291NrRows → Fin ite8291LedsPerRowMax → Intensities
  brightness : U32
  bufferInput : Bool
  suspended : Bool

namespace View

def initial : View where
  intensities := fun _ _ => ite8291KbColorDefault.intensities
  brightness := 0
  bufferInput := false
  suspended := false

def setIntensities (view : View) (row : Fin ite8291NrRows)
    (column : Fin ite8291LedsPerRowMax) (intensities : Intensities) :
    View :=
  { view with
    intensities := fun i j =>
      if i = row ∧ j = column then intensities
      else view.intensities i j }

end View

def clampBrightness (value : U32) : U32 :=
  clampTo ite8291KbdBrightnessMax value

/-- Every LED has its scaled colour in its three cells, and the padding is
zero. -/
structure RowsShow (device : Ite8291Device) (rowData : RowData)
    (intensities :
      Fin ite8291NrRows → Fin ite8291LedsPerRowMax → Intensities) :
    Prop where
  cells : ∀ row column plane,
    rowData row (cell plane column) =
      (scaledFor device row column (intensities row column).colour).plane
        plane
  padding : ∀ row (k : Fin ite8291RowDataLength), (k : Nat) < 2 →
    rowData row k = 0

/-- A LED as the view has it. -/
def View.led (view : View) (i : Fin ite8291NrRows)
    (j : Fin ite8291LedsPerRowMax) : McLed :=
  { brightness := clampBrightness view.brightness
    maxBrightness := ite8291KbdBrightnessMax
    intensities := view.intensities i j
    channel := BitVec.ofNat 32 (ite8291LedsPerRowMax * i + j) }

structure Shows (device : Ite8291Device) (data : PerkeyData)
    (view : View) : Prop where
  leds : ∀ i j, data.mcledCdevs i j = view.led i j
  brightness :
    data.brightness = (clampBrightness view.brightness).setWidth 8
  rows : RowsShow device data.rowData view.intensities

section Shows

variable {device : Ite8291Device}

theorem rowsShow_defaultRowData :
    RowsShow device (defaultRowData device) View.initial.intensities := by
  constructor
  · intro row column plane
    rw [defaultRowData_eq_setRows, setRows_cell,
      if_pos (List.mem_finRange row)]
    simp only [View.initial, Colour.colour_intensities]
  · intro row k padding
    rw [defaultRowData_eq_setRows, setRows_padding _ _ _ _ padding]

theorem shows_ite8291PerkeyAdd :
    Shows device (ite8291PerkeyAdd device) View.initial where
  leds := fun _ _ => rfl
  brightness := rfl
  rows := rowsShow_defaultRowData

/-- The channel of a LED gives its row and its column back. -/
theorem channel_led (view : View) (i : Fin ite8291NrRows)
    (j : Fin ite8291LedsPerRowMax) :
    (view.led i j).channel.toNat / ite8291LedsPerRowMax = i ∧
      (view.led i j).channel.toNat % ite8291LedsPerRowMax = j := by
  have rowSmall := i.isLt
  have columnSmall := j.isLt
  simp only [ite8291NrRows] at rowSmall
  simp only [ite8291LedsPerRowMax] at columnSmall
  have fits : 21 * (i : Nat) + j < 2 ^ 32 := by
    omega
  simp only [View.led, BitVec.toNat_ofNat, ite8291LedsPerRowMax,
    Nat.mod_eq_of_lt fits]
  omega

/-- One LED set brings its cells up to date. -/
theorem RowsShow.rowDataSet {rowData : RowData}
    {before after :
      Fin ite8291NrRows → Fin ite8291LedsPerRowMax → Intensities}
    (rows : RowsShow device rowData before) (row : Fin ite8291NrRows)
    (column : Fin ite8291LedsPerRowMax)
    (others : ∀ i j, ¬ (i = row ∧ j = column) → before i j = after i j) :
    RowsShow device
      (Ite.rowDataSet device rowData (row : Nat) (column : Nat)
        (after row column).colour).2 after := by
  constructor
  · intro r c plane
    rw [rowDataSet_cell]
    by_cases here : r = row ∧ c = column
    · rw [if_pos here, here.1, here.2]
    · rw [if_neg here, rows.cells, others r c here]
  · intro r k padding
    rw [rowDataSet_padding _ _ _ _ _ _ padding]
    exact rows.padding r k padding

theorem leds_replaceLed {data : PerkeyData} {view : View}
    (leds : ∀ i j, data.mcledCdevs i j = view.led i j)
    (row : Fin ite8291NrRows) (column : Fin ite8291LedsPerRowMax)
    (intensities : Intensities) (i : Fin ite8291NrRows)
    (j : Fin ite8291LedsPerRowMax) :
    (data.replaceLed row column
        { data.mcledCdevs row column with intensities }).mcledCdevs i j =
      (view.setIntensities row column intensities).led i j := by
  simp only [PerkeyData.replaceLed, LedArray.replace, leds, View.led,
    View.setIntensities]
  by_cases here : i = row ∧ j = column
  · rw [if_pos here, if_pos here, here.1, here.2]
  · rw [if_neg here, if_neg here]

/-- The data after `led_set_brightness`. -/
def PerkeyData.afterLed (device : Ite8291Device) (data : PerkeyData)
    (row : Fin ite8291NrRows) (column : Fin ite8291LedsPerRowMax)
    (value : U32) : PerkeyData :=
  let led := (data.mcledCdevs row column).setBrightness value
  (data.replaceLed row column led).setBrightness device
    ((data.replaceLed row column led).mcledCdevs row column) led.brightness

theorem shows_afterLed {data : PerkeyData} {view : View}
    {before : Fin ite8291NrRows → Fin ite8291LedsPerRowMax → Intensities}
    (leds : ∀ i j, data.mcledCdevs i j = view.led i j)
    (rows : RowsShow device data.rowData before)
    (row : Fin ite8291NrRows) (column : Fin ite8291LedsPerRowMax)
    (others : ∀ i j, ¬ (i = row ∧ j = column) →
      before i j = view.intensities i j)
    (value : U32) :
    Shows device (data.afterLed device row column value)
      { view with brightness := value } := by
  have replaced :
      (data.replaceLed row column
        ((data.mcledCdevs row column).setBrightness value)).mcledCdevs
          row column =
        (view.led row column).setBrightness value := by
    simp only [PerkeyData.replaceLed, LedArray.replace, and_self, if_true,
      leds]
  have clamped :
      ((view.led row column).setBrightness value).brightness =
        clampBrightness value :=
    rfl
  constructor
  · intro i j
    simp only [PerkeyData.afterLed, PerkeyData.setBrightness,
      LedArray.withBrightness, PerkeyData.replaceLed, LedArray.replace,
      leds, clamped]
    by_cases here : i = row ∧ j = column
    · rw [if_pos here, here.1, here.2]
      rfl
    · rw [if_neg here]
      rfl
  · simp only [PerkeyData.afterLed, PerkeyData.setBrightness, leds, clamped]
  · obtain ⟨rowChannel, columnChannel⟩ := channel_led view row column
    have channel :
        ((view.led row column).setBrightness value).channel =
          (view.led row column).channel :=
      rfl
    have intensities :
        ((view.led row column).setBrightness value).intensities =
          view.intensities row column :=
      rfl
    simp only [PerkeyData.afterLed, PerkeyData.setBrightness, replaced,
      channel, intensities, rowChannel, columnChannel]
    exact rows.rowDataSet row column others

theorem Shows.withFlags {data : PerkeyData} {view : View}
    (shows : Shows device data view) (bufferInput suspended : Bool) :
    Shows device data { view with bufferInput, suspended } :=
  ⟨shows.leds, shows.brightness, shows.rows⟩

/-- Only the clamped brightness shows. -/
theorem Shows.of_clamped {data : PerkeyData} {view : View}
    (shows : Shows device data
      { view with brightness := clampBrightness view.brightness }) :
    Shows device data view := by
  obtain ⟨leds, brightness, rows⟩ := shows
  have idem :
      clampBrightness (clampBrightness view.brightness) =
        clampBrightness view.brightness :=
    clampTo_idem ite8291KbdBrightnessMax view.brightness
  refine ⟨fun i j => ?_, ?_, rows⟩
  · rw [leds]
    simp only [View.led, idem]
  · rw [brightness, idem]

/-- Setting a LED touches no cell of another one. -/
theorem afterLed_other {data : PerkeyData} {view : View}
    (leds : ∀ i j, data.mcledCdevs i j = view.led i j)
    (row : Fin ite8291NrRows) (column : Fin ite8291LedsPerRowMax)
    (value : U32) {r : Fin ite8291NrRows} {k : Fin ite8291RowDataLength}
    (other : ∀ plane, ¬ (r = row ∧ k = cell plane column)) :
    (data.afterLed device row column value).rowData r k =
      data.rowData r k := by
  obtain ⟨rowChannel, columnChannel⟩ := channel_led view row column
  have channel :
      ((view.led row column).setBrightness value).channel =
        (view.led row column).channel :=
    rfl
  simp only [PerkeyData.afterLed, PerkeyData.setBrightness,
    PerkeyData.replaceLed, LedArray.replace, and_self, if_true, leds,
    channel, rowChannel, columnChannel]
  exact rowDataSet_other _ _ _ _ _ other

end Shows

/-! ## Frames -/

/-- The announcement of a row and the row. -/
def rowFrame (rowData : RowData) (row : Fin ite8291NrRows) :
    List HidRequest :=
  [.setFeatureReport 0x16 [0x16, 0x00, BitVec.ofNat 8 row, 0, 0, 0, 0, 0],
    .outputReport (List.ofFn (rowData row))]

/-- A complete frame: the mode with the brightness, then every row. -/
def frame (rowData : RowData) (brightness : U8) : List HidRequest :=
  .setFeatureReport 0x08 [0x08, 0x02, 0x33, 0x00, brightness, 0, 0, 0] ::
    (List.finRange ite8291NrRows).flatMap (rowFrame rowData)

section Frames

variable {σ : Type} {transport : HidTransport σ}

theorem transfers_writeRowsLoop (succeed : TransfersSucceed transport)
    (rowData : RowData) (rows : List (Fin ite8291NrRows)) (result : Int)
    (state : σ) :
    transfers transport state (writeRowsLoop rowData rows result) =
      rows.flatMap (rowFrame rowData) := by
  induction rows generalizing result state with
  | nil =>
      rfl
  | cons row rest inductionHypothesis =>
      have sent : ∀ reached : σ,
          ¬ ((outputReport (List.ofFn (rowData row))).run
            transport reached).1 < 0 :=
        fun reached => Int.not_lt.mpr (succeed _ reached)
      simp only [writeRowsLoop, transfers_bind, if_neg (sent _),
        inductionHypothesis, List.flatMap_cons]
      rfl

theorem transfers_ite8291WriteRows (succeed : TransfersSucceed transport)
    (rowData : RowData) (brightness : U8) (state : σ) :
    transfers transport state (ite8291WriteRows rowData brightness) =
      frame rowData (if brightness > 0x32 then 0x32 else brightness) := by
  simp only [ite8291WriteRows, transfers_bind, transfers_pure,
    transfers_writeRowsLoop succeed, List.append_nil]
  rfl

/-- The brightness of the data is within the bounds already. -/
theorem transfers_ite8291PerkeyWriteState {device : Ite8291Device}
    (succeed : TransfersSucceed transport) {data : Ite8291Data}
    {view : View} (shows : Shows device data.deviceData view) (state : σ) :
    transfers transport state (ite8291PerkeyWriteState data) =
      frame data.deviceData.rowData
        ((clampBrightness view.brightness).setWidth 8) := by
  have small : ¬ (clampBrightness view.brightness).setWidth 8 >
      (0x32 : U8) := by
    unfold clampBrightness clampTo
    split
    case isTrue less =>
      have bound : view.brightness.toNat < 0x32 := less
      apply BitVec.not_lt.mpr
      apply BitVec.le_def.mpr
      rw [BitVec.toNat_setWidth]
      exact Nat.le_trans (Nat.mod_le _ _) (Nat.le_of_lt bound)
    case isFalse more =>
      decide
  rw [ite8291PerkeyWriteState, transfers_ite8291WriteRows succeed,
    shows.brightness, if_neg small]

end Frames

/-! ## Runs -/

section Runs

variable {σ : Type} (device : Ite8291Device) (transport : HidTransport σ)

/-- The data a program returns, and what it transmits. -/
def Keyboard.run (keyboard : Keyboard σ) (program : Hid Ite8291Data) :
    Keyboard σ :=
  { keyboard with
    data := (program.run transport keyboard.usb).1
    usb := (program.run transport keyboard.usb).2
    transmitted := keyboard.transmitted ++
      transfers transport keyboard.usb program }

theorem Keyboard.run_pure (keyboard : Keyboard σ) (data : Ite8291Data) :
    keyboard.run transport (pure data) = { keyboard with data } := by
  simp only [Keyboard.run, Program.run_pure, transfers_pure,
    List.append_nil]

/-- A program that returns data it had before its transfers. -/
theorem Keyboard.run_bind_pure {α : Type} (keyboard : Keyboard σ)
    (program : Hid α) (data : Ite8291Data) :
    keyboard.run transport (program >>= fun _ => pure data) =
      { keyboard with
        data
        usb := (program.run transport keyboard.usb).2
        transmitted := keyboard.transmitted ++
          transfers transport keyboard.usb program } := by
  simp only [Keyboard.run, Program.run_bind, Program.run_pure,
    transfers_bind, transfers_pure, List.append_nil]

inductive KeyboardStep where
  | multiIntensity (row : Fin ite8291NrRows)
      (column : Fin ite8291LedsPerRowMax) (intensities : Intensities)
  | brightness (row : Fin ite8291NrRows)
      (column : Fin ite8291LedsPerRowMax) (value : U32)
  | bufferInput (buf : String)
  | suspend
  | resume

namespace KeyboardStep

/-- The driver's part of a step. -/
def program (data : Ite8291Data) : KeyboardStep → Hid Ite8291Data
  | .multiIntensity row column intensities =>
      multiIntensityStore device data row column intensities
  | .brightness row column value =>
      ledSetBrightness device data row column value
  | .bufferInput buf => do
      let stored ← bufferInputStore buf data
      return stored.2
  | .suspend => do
      let _ ← driverSuspendCallb
      return data
  | .resume => do
      let _ ← driverResumeCallb data
      return data

def suspended (before : Bool) : KeyboardStep → Bool
  | .suspend => true
  | .resume => false
  | _ => before

def step (item : KeyboardStep) (keyboard : Keyboard σ) : Keyboard σ :=
  { keyboard.run transport (item.program device keyboard.data) with
    suspended := item.suspended keyboard.suspended }

def viewStep (item : KeyboardStep) (view : View) : View :=
  match item with
  | .multiIntensity row column intensities =>
      view.setIntensities row column intensities
  | .brightness _ _ value => { view with brightness := value }
  | .bufferInput buf =>
      match kstrtobool buf with
      | .error _ => view
      | .ok on => { view with bufferInput := on }
  | .suspend => { view with suspended := true }
  | .resume => { view with suspended := false }

/-- The LED a step changes. -/
def changes (row : Fin ite8291NrRows)
    (column : Fin ite8291LedsPerRowMax) : KeyboardStep → Prop
  | .multiIntensity r c _ => r = row ∧ c = column
  | .brightness r c _ => r = row ∧ c = column
  | _ => False

end KeyboardStep

/-- The keyboard after the probe. -/
def probedKeyboard (usb : σ) : Keyboard σ :=
  Keyboard.run transport
    { data :=
        { deviceBufferInput := false
          deviceData := ite8291PerkeyAdd device }
      suspended := false
      usb
      transmitted := [] }
    (driverProbeCallb device)

variable {device} {transport}

/-- A keyboard shows what the user asked for; awake and not collecting, it
was sent the rows last. -/
structure Agrees (device : Ite8291Device) (keyboard : Keyboard σ)
    (view : View) : Prop where
  shows : Shows device keyboard.data.deviceData view
  bufferInput : keyboard.data.deviceBufferInput = view.bufferInput
  suspended : keyboard.suspended = view.suspended
  sent : keyboard.suspended = false →
    keyboard.data.deviceBufferInput = false →
    frame keyboard.data.deviceData.rowData
        ((clampBrightness view.brightness).setWidth 8) <:+
      keyboard.transmitted

/-- The data with one LED set, as the driver leaves them. -/
def Ite8291Data.afterLed (device : Ite8291Device) (data : Ite8291Data)
    (row : Fin ite8291NrRows) (column : Fin ite8291LedsPerRowMax)
    (value : U32) : Ite8291Data :=
  { data with
    deviceData := data.deviceData.afterLed device row column value }

theorem ledSetBrightness_eq (data : Ite8291Data)
    (row : Fin ite8291NrRows) (column : Fin ite8291LedsPerRowMax)
    (value : U32) :
    ledSetBrightness device data row column value =
      if data.deviceBufferInput = false then
        ite8291PerkeyWriteState (data.afterLed device row column value) >>=
          fun _ => pure (data.afterLed device row column value)
      else pure (data.afterLed device row column value) :=
  rfl

theorem run_ledSetBrightness (data : Ite8291Data)
    (row : Fin ite8291NrRows) (column : Fin ite8291LedsPerRowMax)
    (value : U32) (keyboard : Keyboard σ) :
    (keyboard.run transport
        (ledSetBrightness device data row column value)).data =
      data.afterLed device row column value := by
  rw [ledSetBrightness_eq]
  split
  · rw [Keyboard.run_bind_pure]
  · rw [Keyboard.run_pure]

/-- A step that changes a LED keeps the agreement. -/
theorem agrees_of_ledSetBrightness (succeed : TransfersSucceed transport)
    {keyboard : Keyboard σ} {view' : View} (data : Ite8291Data)
    (row : Fin ite8291NrRows) (column : Fin ite8291LedsPerRowMax)
    (value : U32) (sameBuffer : data.deviceBufferInput = view'.bufferInput)
    (suspended : keyboard.suspended = view'.suspended)
    (shows : Shows device
      (data.afterLed device row column value).deviceData view') :
    Agrees device
      (keyboard.run transport (ledSetBrightness device data row column value))
      view' := by
  rw [ledSetBrightness_eq]
  split
  case isTrue direct =>
    rw [Keyboard.run_bind_pure]
    refine ⟨shows, sameBuffer, suspended, fun _ _ => ?_⟩
    rw [transfers_ite8291PerkeyWriteState succeed shows]
    exact List.suffix_append _ _
  case isFalse collecting =>
    rw [Keyboard.run_pure]
    exact
      ⟨shows, sameBuffer, suspended, fun _ direct =>
        absurd direct collecting⟩

theorem agrees_multiIntensity (succeed : TransfersSucceed transport)
    {keyboard : Keyboard σ} {view : View}
    (agrees : Agrees device keyboard view) (row : Fin ite8291NrRows)
    (column : Fin ite8291LedsPerRowMax) (intensities : Intensities) :
    Agrees device
      ((KeyboardStep.multiIntensity row column intensities).step device
        transport keyboard)
      (view.setIntensities row column intensities) := by
  obtain ⟨shows, bufferInput, suspended, _⟩ := agrees
  let led : McLed :=
    { keyboard.data.deviceData.mcledCdevs row column with intensities }
  let data : Ite8291Data :=
    { keyboard.data with
      deviceData :=
        keyboard.data.deviceData.replaceLed row column led }
  let view' := view.setIntensities row column intensities
  have leds : ∀ i j, data.deviceData.mcledCdevs i j = view'.led i j :=
    leds_replaceLed shows.leds row column intensities
  have others : ∀ i j, ¬ (i = row ∧ j = column) →
      view.intensities i j = view'.intensities i j :=
    fun _ _ different => (if_neg different).symm
  have brightness :
      led.brightness = clampBrightness view'.brightness := by
    simp only [led, shows.leds]
    rfl
  have changed : Shows device
      (data.deviceData.afterLed device row column led.brightness)
      view' := by
    rw [brightness]
    exact
      (shows_afterLed leds shows.rows row column others _).of_clamped
  exact
    agrees_of_ledSetBrightness succeed data row column led.brightness
      bufferInput suspended changed

theorem agrees_bufferInput (succeed : TransfersSucceed transport)
    {keyboard : Keyboard σ} {view : View}
    (agrees : Agrees device keyboard view) (buf : String) :
    Agrees device
      ((KeyboardStep.bufferInput buf).step device transport keyboard)
      ((KeyboardStep.bufferInput buf).viewStep view) := by
  obtain ⟨shows, bufferInput, suspended, sent⟩ := agrees
  cases parsed : kstrtobool buf with
  | error result =>
      have nothing :
          KeyboardStep.program device keyboard.data (.bufferInput buf) =
            pure keyboard.data := by
        simp only [KeyboardStep.program, bufferInputStore, parsed]
        rfl
      simp only [KeyboardStep.step, nothing, Keyboard.run_pure,
        KeyboardStep.viewStep, parsed]
      exact ⟨shows, bufferInput, suspended, sent⟩
  | ok on =>
      let switched : Ite8291Data :=
        { keyboard.data with deviceBufferInput := on }
      have showsOn :
          Shows device switched.deviceData
            { view with bufferInput := on } :=
        shows.withFlags on view.suspended
      cases on with
      | true =>
          have collects :
              KeyboardStep.program device keyboard.data
                  (.bufferInput buf) =
                pure switched := by
            simp only [KeyboardStep.program, bufferInputStore, parsed]
            rfl
          simp only [KeyboardStep.step, collects, Keyboard.run_pure,
            KeyboardStep.viewStep, parsed]
          exact
            ⟨showsOn, rfl, suspended, fun _ direct => nomatch direct⟩
      | false =>
          have transmits :
              KeyboardStep.program device keyboard.data
                  (.bufferInput buf) =
                ite8291PerkeyWriteState switched >>=
                  fun _ => pure switched := by
            simp only [KeyboardStep.program, bufferInputStore, parsed,
              if_true, bind_assoc, pure_bind]
            rfl
          simp only [KeyboardStep.step, transmits,
            Keyboard.run_bind_pure, KeyboardStep.viewStep, parsed]
          refine ⟨showsOn, rfl, suspended, fun _ _ => ?_⟩
          rw [transfers_ite8291PerkeyWriteState succeed showsOn]
          exact List.suffix_append _ _

theorem agrees_resume (succeed : TransfersSucceed transport)
    {keyboard : Keyboard σ} {view : View}
    (agrees : Agrees device keyboard view) :
    Agrees device (KeyboardStep.resume.step device transport keyboard)
      { view with suspended := false } := by
  obtain ⟨shows, bufferInput, _, _⟩ := agrees
  have transmits :
      KeyboardStep.program device keyboard.data .resume =
        ite8291PerkeyWriteState keyboard.data >>=
          fun _ => pure keyboard.data := by
    simp only [KeyboardStep.program, driverResumeCallb,
      ite8291PerkeyWriteOn, pure_bind]
  simp only [KeyboardStep.step, transmits, Keyboard.run_bind_pure]
  refine
    ⟨shows.withFlags view.bufferInput false, bufferInput, rfl,
      fun _ _ => ?_⟩
  rw [transfers_ite8291PerkeyWriteState succeed shows]
  exact List.suffix_append _ _

theorem agrees_step (succeed : TransfersSucceed transport)
    (item : KeyboardStep) {keyboard : Keyboard σ} {view : View}
    (agrees : Agrees device keyboard view) :
    Agrees device (item.step device transport keyboard)
      (item.viewStep view) := by
  cases item with
  | multiIntensity row column intensities =>
      exact agrees_multiIntensity succeed agrees row column intensities
  | brightness row column value =>
      have changed :=
        shows_afterLed agrees.shows.leds agrees.shows.rows row column
          (fun _ _ _ => rfl) value
      exact
        agrees_of_ledSetBrightness succeed keyboard.data row column value
          agrees.bufferInput agrees.suspended changed
  | bufferInput buf =>
      exact agrees_bufferInput succeed agrees buf
  | suspend =>
      exact
        ⟨agrees.shows.withFlags view.bufferInput true, agrees.bufferInput,
          rfl, fun awake => nomatch awake⟩
  | resume =>
      exact agrees_resume succeed agrees

theorem agrees_probedKeyboard (succeed : TransfersSucceed transport)
    (usb : σ) :
    Agrees device (probedKeyboard device transport usb) View.initial := by
  have shows : Shows device (ite8291PerkeyAdd device) View.initial :=
    shows_ite8291PerkeyAdd
  have transmits :
      driverProbeCallb device =
        ite8291PerkeyWriteState
            { deviceBufferInput := false
              deviceData := ite8291PerkeyAdd device } >>=
          fun _ => pure
            { deviceBufferInput := false
              deviceData := ite8291PerkeyAdd device } := by
    simp only [driverProbeCallb, ite8291PerkeyWriteOn, pure_bind]
  rw [probedKeyboard, transmits, Keyboard.run_bind_pure]
  refine ⟨shows, rfl, rfl, fun _ _ => ?_⟩
  rw [transfers_ite8291PerkeyWriteState succeed shows]
  exact List.suffix_append _ _

/-- What the user asked for over a run. -/
def viewAfter (steps : List KeyboardStep) : View :=
  runSteps KeyboardStep.viewStep steps View.initial

def keyboardAfter (device : Ite8291Device) (transport : HidTransport σ)
    (usb : σ) (steps : List KeyboardStep) : Keyboard σ :=
  runSteps (KeyboardStep.step device transport) steps
    (probedKeyboard device transport usb)

theorem agrees_runSteps (succeed : TransfersSucceed transport)
    (steps : List KeyboardStep) {keyboard : Keyboard σ} {view : View}
    (agrees : Agrees device keyboard view) :
    Agrees device
      (runSteps (KeyboardStep.step device transport) steps keyboard)
      (runSteps KeyboardStep.viewStep steps view) := by
  induction steps generalizing keyboard view with
  | nil =>
      exact agrees
  | cons item rest inductionHypothesis =>
      exact inductionHypothesis (agrees_step succeed item agrees)

theorem agrees_keyboardAfter (succeed : TransfersSucceed transport)
    (usb : σ) (steps : List KeyboardStep) :
    Agrees device (keyboardAfter device transport usb steps)
      (viewAfter steps) :=
  agrees_runSteps succeed steps (agrees_probedKeyboard succeed usb)

/-- A LED change leaves the cells of the other LEDs alone. -/
theorem step_other {keyboard : Keyboard σ} {view : View}
    (shows : Shows device keyboard.data.deviceData view)
    {item : KeyboardStep} {row : Fin ite8291NrRows}
    {column : Fin ite8291LedsPerRowMax}
    (changes : item.changes row column)
    {r : Fin ite8291NrRows} {k : Fin ite8291RowDataLength}
    (other : ∀ plane, ¬ (r = row ∧ k = cell plane column)) :
    (item.step device transport keyboard).data.deviceData.rowData r k =
      keyboard.data.deviceData.rowData r k := by
  cases item with
  | multiIntensity r' c' intensities =>
      obtain ⟨rfl, rfl⟩ := changes
      simp only [KeyboardStep.step, KeyboardStep.program,
        multiIntensityStore, run_ledSetBrightness]
      exact
        afterLed_other (leds_replaceLed shows.leds r' c' intensities) r' c'
          _ other
  | brightness r' c' value =>
      obtain ⟨rfl, rfl⟩ := changes
      simp only [KeyboardStep.step, KeyboardStep.program,
        run_ledSetBrightness]
      exact afterLed_other shows.leds r' c' value other
  | bufferInput buf => exact changes.elim
  | suspend => exact changes.elim
  | resume => exact changes.elim

/-- After any run the rows hold the scaled colours last set, a LED change
touches no cell of another LED, and a keyboard that is awake and not
collecting was last sent a frame of its rows. -/
theorem frameBuffer_correct (device : Ite8291Device)
    (transport : HidTransport σ) (succeed : TransfersSucceed transport)
    (usb : σ) (steps : List KeyboardStep) :
    let keyboard := keyboardAfter device transport usb steps
    let rows := keyboard.data.deviceData.rowData
    RowsShow device rows (viewAfter steps).intensities ∧
      (∀ (item : KeyboardStep) row column, item.changes row column →
        ∀ r k, (∀ plane, ¬ (r = row ∧ k = cell plane column)) →
          (item.step device transport keyboard).data.deviceData.rowData
              r k =
            rows r k) ∧
      (keyboard.suspended = false →
        keyboard.data.deviceBufferInput = false →
        frame rows
            ((clampBrightness (viewAfter steps).brightness).setWidth 8) <:+
          keyboard.transmitted) := by
  intro keyboard rows
  have agrees : Agrees device keyboard (viewAfter steps) :=
    agrees_keyboardAfter succeed usb steps
  refine ⟨agrees.shows.rows, ?_, agrees.sent⟩
  intro item row column changes r k other
  exact step_other agrees.shows changes other

theorem frameBuffer_correct_oneLed :
    let device : Ite8291Device := ⟨fun _ => none, 0x600a, 0x0001⟩
    let steps : List KeyboardStep :=
      [.multiIntensity 5 20 ⟨0xff, 0x80, 0x1ff⟩, .brightness 0 0 0x40]
    RowsShow device
      (keyboardAfter device (fun _ usb => (0, usb)) ()
        steps).data.deviceData.rowData
      (viewAfter steps).intensities :=
  (frameBuffer_correct ⟨fun _ => none, 0x600a, 0x0001⟩
    (fun _ usb => (0, usb)) (fun _ _ => Int.le_refl 0) () _).1

end Runs

end TuxedoDrivers.Ite
