import TuxedoDrivers.Interaction.Runs
import TuxedoDrivers.Ite.Ite829x

/-!
# Suspend and resume of `ite_829x`

A resume sends the kept intensities and then the mode, which colours all keys
again and stores these colours.  So it preserves what the keyboard shows
exactly if the mode says the same as the intensities.
-/

namespace TuxedoDrivers.Ite

open Interaction

/-! ## What a device was told -/

/-- The brightness, and the colour of each LED; an animation shows no colour
that was sent. -/
structure DeviceView where
  brightness : U8
  colour : U8 → Option Colour

namespace DeviceView

/-- The effect of a command on what the device shows. -/
def apply (view : DeviceView) : HidRequest → DeviceView
  | .setFeatureReport _ [_, 0x09, brightness, _, _, _] =>
      { view with brightness }
  | .setFeatureReport _ [_, 0x01, led, red, green, blue] =>
      { view with
        colour := fun id =>
          if id = led then some ⟨red, green, blue⟩ else view.colour id }
  | .setFeatureReport _ [_, 0x00, 0x09, _, _, _] =>
      { view with colour := fun _ => none }
  | _ => view

def after (view : DeviceView) (requests : List HidRequest) : DeviceView :=
  requests.foldl apply view

@[simp]
theorem after_nil (view : DeviceView) : view.after [] = view :=
  rfl

@[simp]
theorem after_cons (view : DeviceView) (request : HidRequest)
    (rest : List HidRequest) :
    view.after (request :: rest) = (view.apply request).after rest :=
  rfl

@[simp]
theorem after_append (view : DeviceView)
    (first second : List HidRequest) :
    view.after (first ++ second) = (view.after first).after second :=
  List.foldl_append

end DeviceView

/-! ## Commands -/

abbrev command (cmd d0 d1 d2 d3 : U8) : HidRequest :=
  .setFeatureReport 0xcc [0xcc, cmd, d0, d1, d2, d3]

abbrev colourCommand (key : Fin keyboardRows × Fin keyboardColumns)
    (colour : Colour) : HidRequest :=
  command 0x01 (getLedId key.1 key.2) colour.red colour.green colour.blue

theorem colour_colourCommand (view : DeviceView)
    (key : Fin keyboardRows × Fin keyboardColumns) (colour : Colour)
    (id : U8) :
    (view.apply (colourCommand key colour)).colour id =
      if id = getLedId key.1 key.2 then some colour else view.colour id :=
  rfl

section Commands

variable {σ : Type} (transport : HidTransport σ) (usb : σ)

theorem transfers_keybSendData (cmd d0 d1 d2 d3 : U8) :
    transfers transport usb (keybSendData true cmd d0 d1 d2 d3) =
      [command cmd d0 d1 d2 d3] :=
  rfl

theorem transfers_sendColours
    (colours : Fin keyboardRows → Fin keyboardColumns → Colour) :
    transfers transport usb (sendColours true colours) =
      keys.map fun key => colourCommand key (colours key.1 key.2) := by
  have round : ∀ (key : Fin keyboardRows × Fin keyboardColumns)
      (reached : σ),
      transfers transport reached
          (keybSendColour true (getLedId key.1 key.2)
              (colours key.1 key.2) >>= fun _ => pure PUnit.unit) =
        [colourCommand key (colours key.1 key.2)] :=
    fun _ _ => rfl
  rw [sendColours, transfers_forM _ _ round, ← List.map_eq_flatMap]

end Commands

/-! ## Colours of all keys -/

theorem mem_keys (key : Fin keyboardRows × Fin keyboardColumns) :
    key ∈ keys := by
  obtain ⟨row, col⟩ := key
  simp only [keys, List.mem_flatMap, List.mem_map, Prod.mk.injEq]
  exact ⟨row, List.mem_finRange row, col, List.mem_finRange col, rfl, rfl⟩

theorem getLedId_toNat (row : Fin keyboardRows)
    (col : Fin keyboardColumns) :
    (getLedId row col).toNat = 32 * row + col := by
  revert row col
  decide

/-- Two keys have different channels. -/
theorem getLedId_inj {row row' : Fin keyboardRows}
    {col col' : Fin keyboardColumns}
    (same : getLedId row col = getLedId row' col') :
    row = row' ∧ col = col' := by
  have number := congrArg BitVec.toNat same
  rw [getLedId_toNat, getLedId_toNat] at number
  have small : (col : Nat) < 20 := col.isLt
  have small' : (col' : Nat) < 20 := col'.isLt
  rw [Fin.ext_iff, Fin.ext_iff]
  omega

theorem apply_colourCommand (view : DeviceView)
    (key other : Fin keyboardRows × Fin keyboardColumns)
    (colour : Colour) :
    (view.apply (colourCommand key colour)).colour
        (getLedId other.1 other.2) =
      if other = key then some colour
      else view.colour (getLedId other.1 other.2) := by
  rw [colour_colourCommand]
  by_cases same : other = key
  · subst same
    rw [if_pos rfl, if_pos rfl]
  · have different :
        getLedId other.1 other.2 ≠ getLedId key.1 key.2 := by
      intro equal
      obtain ⟨row, col⟩ := getLedId_inj equal
      exact same (Prod.ext row col)
    rw [if_neg different, if_neg same]

/-- After a colour was sent for each of some keys, these show it. -/
theorem colour_after_colourCommands
    (colours : Fin keyboardRows → Fin keyboardColumns → Colour)
    (sent : List (Fin keyboardRows × Fin keyboardColumns))
    (view : DeviceView)
    (key : Fin keyboardRows × Fin keyboardColumns) :
    (view.after
        (sent.map fun key => colourCommand key
          (colours key.1 key.2))).colour (getLedId key.1 key.2) =
      if key ∈ sent then some (colours key.1 key.2)
      else view.colour (getLedId key.1 key.2) := by
  induction sent generalizing view with
  | nil =>
      simp
  | cons first rest inductionHypothesis =>
      rw [List.map_cons, DeviceView.after_cons, inductionHypothesis,
        apply_colourCommand]
      by_cases later : key ∈ rest
      · simp [later]
      · by_cases now : key = first
        · subst now
          simp
        · simp [later, now]

theorem brightness_after_colourCommands
    (colours : Fin keyboardRows → Fin keyboardColumns → Colour)
    (sent : List (Fin keyboardRows × Fin keyboardColumns))
    (view : DeviceView) :
    (view.after
        (sent.map fun key => colourCommand key
          (colours key.1 key.2))).brightness = view.brightness := by
  induction sent generalizing view with
  | nil =>
      rfl
  | cons first rest inductionHypothesis =>
      exact inductionHypothesis _

/-! ## Resume -/

/-- The colour of a key in a mode, unless the device animates the keys. -/
def modeColour (mode : Nat) (row : Fin keyboardRows)
    (col : Fin keyboardColumns) : Option Colour :=
  if mode < modeMapLength then
    some (splitColour (modeToColor.getD mode 0))
  else if mode = modeMapLength then
    some (letterColour row col)
  else none

section Resume

variable {σ : Type} {transport : HidTransport σ} {usb : σ}
  {driver : Ite829x}

/-- What a mode does to the driver. -/
def Ite829x.inMode (driver : Ite829x) (mode : Nat) : Ite829x :=
  { driver with
    mcledCdevs := fun row col =>
      match modeColour mode row col with
      | some colour =>
          { driver.mcledCdevs row col with
            intensities := colour.intensities }
      | none => driver.mcledCdevs row col }

/-- All keys get the brightness they had and these colours. -/
def Shown (view : DeviceView) (requests : List HidRequest)
    (colours : Fin keyboardRows → Fin keyboardColumns → Option Colour) :
    Prop :=
  (view.after requests).brightness = view.brightness ∧
    ∀ (row : Fin keyboardRows) (col : Fin keyboardColumns),
      (view.after requests).colour (getLedId row col) = colours row col

theorem shown_sendColours
    (colours : Fin keyboardRows → Fin keyboardColumns → Colour)
    (view : DeviceView) :
    Shown view (transfers transport usb (sendColours true colours))
      fun row col => some (colours row col) := by
  rw [transfers_sendColours]
  constructor
  · exact brightness_after_colourCommands colours keys view
  · intro row col
    have painted :=
      colour_after_colourCommands colours keys view (row, col)
    rw [if_pos (mem_keys _)] at painted
    exact painted

theorem keybSetColours_spec (transport : HidTransport σ) (usb : σ)
    (bound : driver.kbdev = true)
    (colours : Fin keyboardRows → Fin keyboardColumns → Colour) :
    ((keybSetColours driver colours).run transport usb).1 =
        driver.withColours colours ∧
      ∀ view, Shown view
        (transfers transport usb (keybSetColours driver colours))
        fun row col => some (colours row col) := by
  constructor
  · rw [keybSetColours, Program.run_bind]
    rfl
  · intro view
    rw [keybSetColours, transfers_bind, transfers_pure, List.append_nil,
      bound]
    exact shown_sendColours colours view

/-- A mode that exists is stored and shown: a colour for every key or the
animation. -/
theorem sendMode_spec (transport : HidTransport σ) (usb : σ)
    (bound : driver.kbdev = true) {mode : Nat}
    (valid : mode < modeCount) :
    ((sendMode driver mode).run transport usb).1 = driver.inMode mode ∧
      ∀ view, Shown view (transfers transport usb (sendMode driver mode))
        (modeColour mode) := by
  have present : ¬ driver.kbdev = false := by
    rw [bound]
    decide
  by_cases colourMode : mode < modeMapLength
  · have modeColours : modeColour mode =
        fun _ _ => some (splitColour (modeToColor.getD mode 0)) := by
      funext row col
      exact if_pos colourMode
    have program : sendMode driver mode =
        keybSetColours driver
          fun _ _ => splitColour (modeToColor.getD mode 0) := by
      rw [sendMode, if_neg present, if_pos colourMode]
      rfl
    have painted := keybSetColours_spec transport usb bound
      fun _ _ => splitColour (modeToColor.getD mode 0)
    rw [program, Ite829x.inMode, modeColours]
    exact painted
  · by_cases letters : mode = modeMapLength
    · have modeColours : modeColour mode =
          fun row col => some (letterColour row col) := by
        funext row col
        rw [modeColour, if_neg colourMode, if_pos letters]
      have program : sendMode driver mode =
          keybSetColours driver letterColour := by
        rw [sendMode, if_neg present, if_neg colourMode, if_pos letters]
      have painted :=
        keybSetColours_spec transport usb bound letterColour
      rw [program, Ite829x.inMode, modeColours]
      exact painted
    · have animation : mode = modeMapLength + 1 := by
        simp only [modeCount, modeExtrasLength] at valid
        omega
      have modeColours : modeColour mode = fun _ _ => none := by
        funext row col
        rw [modeColour, if_neg colourMode, if_neg letters]
      have program : sendMode driver mode =
          keybSendData driver.kbdev 0x00 0x09 0x00 0x00 0x00 >>=
            fun _ => pure driver := by
        rw [sendMode, if_neg present, if_neg colourMode, if_neg letters,
          if_pos animation]
      rw [program, Ite829x.inMode, modeColours]
      constructor
      · rw [Program.run_bind]
        rfl
      · intro view
        rw [transfers_bind, transfers_pure, List.append_nil, bound,
          transfers_keybSendData]
        exact ⟨rfl, fun _ _ => rfl⟩

theorem run_driver829xResumeCallb (transport : HidTransport σ) (usb : σ)
    (bound : driver.kbdev = true)
    (valid : driver.tiData.mode < modeCount) :
    ((driver829xResumeCallb driver).run transport usb).1 =
      driver.inMode driver.tiData.mode := by
  rw [driver829xResumeCallb, Program.run_bind, Program.run_bind]
  exact (sendMode_spec transport _ bound valid).1

/-- A resume shows the kept brightness, and what the mode says. -/
theorem driver829xResumeCallb_shows (transport : HidTransport σ) (usb : σ)
    (bound : driver.kbdev = true)
    (valid : driver.tiData.mode < modeCount)
    (view : DeviceView) :
    let sent := transfers transport usb (driver829xResumeCallb driver)
    (view.after sent).brightness =
        driver.tiData.brightness.setWidth 8 ∧
      ∀ (row : Fin keyboardRows) (col : Fin keyboardColumns),
        (view.after sent).colour (getLedId row col) =
          modeColour driver.tiData.mode row col := by
  intro sent
  simp only [sent]
  rw [driver829xResumeCallb, transfers_bind, transfers_bind, bound,
    transfers_keybSendData]
  constructor
  · rw [DeviceView.after_append, DeviceView.after_append]
    rw [((sendMode_spec transport _ bound valid).2 _).1,
      (shown_sendColours _ _).1]
    rfl
  · intro row col
    rw [DeviceView.after_append, DeviceView.after_append]
    exact ((sendMode_spec transport _ bound valid).2 _).2 row col

end Resume

/-! ## Runs -/

def clamp829xBrightness (value : U32) : U32 :=
  clampTo ite829xKbdBrightnessMax value

inductive Ite829xStep where
  | multiIntensity (row : Fin keyboardRows) (col : Fin keyboardColumns)
      (intensities : Intensities)
  | brightness (row : Fin keyboardRows) (col : Fin keyboardColumns)
      (value : U32)
  | key (keyCode : U64)
  | resume

namespace Ite829xStep

def program (driver : Ite829x) : Ite829xStep → Hid Ite829x
  | .multiIntensity row col intensities =>
      multiIntensity829xStore driver row col intensities
  | .brightness row col value => led829xSetBrightness driver row col value
  | .key keyCode => keyActions driver keyCode
  | .resume => driver829xResumeCallb driver

def step {σ : Type} (transport : HidTransport σ) (item : Ite829xStep)
    (machine : Ite829x × σ) : Ite829x × σ :=
  (item.program machine.1).run transport machine.2

/-- The brightness last set. -/
def setBrightness (item : Ite829xStep) (before : U32) : U32 :=
  match item with
  | .brightness _ _ value => value
  | _ => before

end Ite829xStep

/-- What holds of the driver at any time after the probe. -/
structure Running (driver : Ite829x) (lastBrightness : U32) : Prop where
  bound : driver.kbdev = true
  valid : driver.tiData.mode < modeCount
  brightness :
    driver.tiData.brightness = clamp829xBrightness lastBrightness
  leds : ∀ row col,
    (driver.mcledCdevs row col).brightness =
        clamp829xBrightness lastBrightness ∧
      (driver.mcledCdevs row col).maxBrightness = ite829xKbdBrightnessMax

section Running

variable {σ : Type} {transport : HidTransport σ} {usb : σ}
  {driver : Ite829x} {lastBrightness : U32}

theorem Running.inMode (running : Running driver lastBrightness)
    (mode : Nat) : Running (driver.inMode mode) lastBrightness := by
  refine ⟨running.bound, running.valid, running.brightness, ?_⟩
  intro row col
  simp only [Ite829x.inMode]
  split
  · exact running.leds row col
  · exact running.leds row col

theorem running_keyActions (running : Running driver lastBrightness)
    (keyCode : U64) :
    Running ((keyActions driver keyCode).run transport usb).1
      lastBrightness := by
  by_cases toggle : keyCode = keyLightsToggle
  · have advanced :
        Running
          { driver with tiData.mode := nextMode driver.tiData.mode }
          lastBrightness :=
      ⟨running.bound, nextMode_lt _, running.brightness, running.leds⟩
    have sent :=
      (sendMode_spec transport usb advanced.bound advanced.valid).1
    rw [keyActions, if_pos toggle]
    rw [sent]
    exact advanced.inMode _
  · rw [keyActions, if_neg toggle]
    exact running

/-- Setting one LED sets the brightness of all. -/
theorem running_led829xSetBrightness (transport : HidTransport σ)
    (usb : σ) (running : Running driver lastBrightness)
    (row : Fin keyboardRows) (col : Fin keyboardColumns) (value : U32) :
    Running ((led829xSetBrightness driver row col value).run
      transport usb).1 value := by
  have maximum := (running.leds row col).2
  have clamped :
      ((driver.mcledCdevs row col).setBrightness value).brightness =
        clamp829xBrightness value := by
    simp only [McLed.setBrightness, maximum]
    rfl
  rw [led829xSetBrightness, leds829xSetBrightnessMc, Program.run_bind,
    Program.run_bind, Program.run_pure]
  refine ⟨running.bound, running.valid, clamped, ?_⟩
  intro i j
  refine ⟨clamped, ?_⟩
  simp only [LedArray.withBrightness, LedArray.replace]
  split
  · exact maximum
  · exact (running.leds i j).2

theorem running_multiIntensity829xStore
    (running : Running driver lastBrightness)
    (row : Fin keyboardRows) (col : Fin keyboardColumns)
    (intensities : Intensities) :
    Running ((multiIntensity829xStore driver row col intensities).run
      transport usb).1 lastBrightness := by
  let led : McLed := { driver.mcledCdevs row col with intensities }
  let stored : Ite829x :=
    { driver with mcledCdevs := driver.mcledCdevs.replace row col led }
  have runningStored : Running stored lastBrightness := by
    refine ⟨running.bound, running.valid, running.brightness, ?_⟩
    intro i j
    simp only [stored, LedArray.replace]
    split
    · exact running.leds row col
    · exact running.leds i j
  have brightness : led.brightness = clamp829xBrightness lastBrightness :=
    (running.leds row col).1
  obtain ⟨bound, valid, clamped, leds⟩ :=
    running_led829xSetBrightness transport usb runningStored row col
      led.brightness
  have idem :
      clamp829xBrightness led.brightness =
        clamp829xBrightness lastBrightness := by
    rw [brightness]
    exact clampTo_idem _ _
  rw [idem] at clamped
  exact ⟨bound, valid, clamped, fun i j => idem ▸ leds i j⟩

theorem running_step (item : Ite829xStep)
    {machine : Ite829x × σ} (running : Running machine.1 lastBrightness) :
    Running (item.step transport machine).1
      (item.setBrightness lastBrightness) := by
  cases item with
  | multiIntensity row col intensities =>
      exact running_multiIntensity829xStore running row col intensities
  | brightness row col value =>
      exact
        running_led829xSetBrightness transport machine.2 running row col
          value
  | key keyCode =>
      exact running_keyActions running keyCode
  | resume =>
      have resumed :=
        run_driver829xResumeCallb transport machine.2 running.bound
          running.valid
      simp only [Ite829xStep.step, Ite829xStep.program, resumed]
      exact running.inMode _

/-- The state after the probe of a module just loaded. -/
def probed829x (transport : HidTransport σ) (usb : σ) : Ite829x × σ :=
  (probeCallb Ite829x.loaded).run transport usb

theorem running_probed829x :
    Running (probed829x transport usb).1 0 := by
  rw [probed829x, probeCallb, Program.run_bind, Program.run_bind,
    Program.run_pure]
  have valid : defaultMode < modeCount := by
    decide
  exact ⟨rfl, valid, rfl, fun _ _ => ⟨rfl, rfl⟩⟩

/-- The brightness last set in a run. -/
def lastBrightness829x (steps : List Ite829xStep) : U32 :=
  runSteps Ite829xStep.setBrightness steps 0

def driver829xAfter (transport : HidTransport σ) (usb : σ)
    (steps : List Ite829xStep) : Ite829x × σ :=
  runSteps (Ite829xStep.step transport) steps (probed829x transport usb)

theorem running_runSteps (steps : List Ite829xStep)
    {machine : Ite829x × σ} (running : Running machine.1 lastBrightness) :
    Running (runSteps (Ite829xStep.step transport) steps machine).1
      (runSteps Ite829xStep.setBrightness steps lastBrightness) := by
  induction steps generalizing machine lastBrightness with
  | nil =>
      exact running
  | cons item rest inductionHypothesis =>
      exact inductionHypothesis (running_step item running)

end Running

/-! ## Colours over a suspend -/

section Preserved

variable {σ : Type}

/-- A resume keeps the intensities, and the device then shows them and the
brightness last set, whatever it showed when it woke up. -/
def ResumePreserves (transport : HidTransport σ) (machine : Ite829x × σ)
    (lastBrightness : U32) : Prop :=
  let resumed := (driver829xResumeCallb machine.1).run transport machine.2
  let sent := transfers transport machine.2
    (driver829xResumeCallb machine.1)
  (∀ row col,
    (resumed.1.mcledCdevs row col).intensities =
      (machine.1.mcledCdevs row col).intensities) ∧
  ∀ woken : DeviceView,
    (woken.after sent).brightness =
      (clamp829xBrightness lastBrightness).setWidth 8 ∧
    ∀ (row : Fin keyboardRows) (col : Fin keyboardColumns),
      (woken.after sent).colour (getLedId row col) =
        some (machine.1.mcledCdevs row col).intensities.colour

/-- Every LED has the intensities of the mode. -/
def ShowsMode (driver : Ite829x) : Prop :=
  ∀ row col, ∃ colour,
    modeColour driver.tiData.mode row col = some colour ∧
      (driver.mcledCdevs row col).intensities = colour.intensities

theorem resumePreserves_iff_of_running {transport : HidTransport σ}
    {machine : Ite829x × σ} {lastBrightness : U32}
    (running : Running machine.1 lastBrightness) :
    ResumePreserves transport machine lastBrightness ↔
      ShowsMode machine.1 := by
  obtain ⟨bound, valid, brightness, -⟩ := running
  have resumed :=
    run_driver829xResumeCallb transport machine.2 bound valid
  have shows := fun woken =>
    driver829xResumeCallb_shows transport machine.2 bound valid woken
  constructor
  · rintro ⟨kept, shown⟩ row col
    have told := (shown ⟨0, fun _ => none⟩).2 row col
    rw [(shows _).2 row col] at told
    have unchanged := kept row col
    rw [resumed] at unchanged
    simp only [Ite829x.inMode, told] at unchanged
    exact ⟨_, told, unchanged.symm⟩
  · intro showsMode
    constructor
    · intro row col
      obtain ⟨colour, mode, same⟩ := showsMode row col
      rw [resumed]
      simp only [Ite829x.inMode, mode]
      exact same.symm
    · intro woken
      constructor
      · rw [(shows woken).1, brightness]
      · intro row col
        obtain ⟨colour, mode, same⟩ := showsMode row col
        rw [(shows woken).2 row col, mode, same, Colour.colour_intensities]

/-- In every run a resume preserves what the keyboard shows exactly if the
mode says the same as the intensities. -/
theorem resumePreserves_iff (transport : HidTransport σ) (usb : σ)
    (steps : List Ite829xStep) :
    ResumePreserves transport (driver829xAfter transport usb steps)
        (lastBrightness829x steps) ↔
      ShowsMode (driver829xAfter transport usb steps).1 :=
  resumePreserves_iff_of_running
    (running_runSteps steps running_probed829x)

/-- One key made red: a resume makes it white, which is the colour of the
mode before any press of the mode key. -/
theorem redKey_turns_white :
    ¬ ResumePreserves (fun _ usb => (0, usb))
      (driver829xAfter (fun _ usb => (0, usb)) ()
        [.multiIntensity 0 0 ⟨255, 0, 0⟩])
      0 := by
  have running :
      Running
        (driver829xAfter (fun _ usb => (0, usb)) ()
          [.multiIntensity 0 0 ⟨255, 0, 0⟩]).1 0 :=
    running_runSteps [.multiIntensity 0 0 ⟨255, 0, 0⟩] running_probed829x
  rw [resumePreserves_iff_of_running running]
  intro showsMode
  obtain ⟨colour, mode, same⟩ := showsMode 0 0
  have white : some (⟨255, 255, 255⟩ : Colour) = some colour := mode
  have red : (⟨255, 0, 0⟩ : Intensities) = colour.intensities := same
  cases white
  revert red
  decide

end Preserved

end TuxedoDrivers.Ite
