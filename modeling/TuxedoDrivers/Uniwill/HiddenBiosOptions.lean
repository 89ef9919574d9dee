import Mathlib.Data.List.GetD
import TuxedoDrivers.Interaction.Requests
import TuxedoDrivers.Interaction.Runs
import TuxedoDrivers.Kernel

/-!
# Hidden BIOS options

The options are shown by two bytes of a firmware variable, which the driver
reads, changes in a buffer and writes back as a whole.  Any call of the
firmware can fail.  Nothing else of the variable may change, and the driver
must not write to it again once the options are shown.
-/

namespace TuxedoDrivers.Uniwill

open Interaction

/-! ## Requests -/

/-- `efi_status_t`, with the codes that the driver tells apart. -/
inductive EfiStatus where
  | success
  | bufferTooSmall
  | other
  deriving DecidableEq, Repr

/-- What `get_variable` returns and leaves: `data` is what it put into the
buffer. -/
structure EfiRead where
  status : EfiStatus
  attr : U32
  size : Nat
  data : List U8
  deriving DecidableEq, Repr

/-- All calls are about `OemMagicVariable`. -/
inductive EfiRequest where
  | efiEnabled
  | getVariable (size : Nat)
  | setVariable (attr : U32) (buf : List U8)
  | kmalloc (size : Nat)
  deriving DecidableEq, Repr

/-- The buffer that `kmalloc` returns has any content. -/
abbrev EfiRequest.Answer : EfiRequest → Type
  | .efiEnabled => Bool
  | .getVariable _ => EfiRead
  | .setVariable _ _ => EfiStatus
  | .kmalloc _ => Option (List U8)

abbrev efiSignature : Signature :=
  ⟨EfiRequest, EfiRequest.Answer⟩

abbrev Efi (α : Type) : Type :=
  Program efiSignature α

def efi (request : EfiRequest) : Efi request.Answer :=
  Program.request (S := efiSignature) request

/-! ## The driver -/

def uwMemoryOverclockingSwitch : Nat := 0x33
def uwMemoryOverclockingSupport : Nat := 0x60
def uwCpuPerformanceAndOverclockingSupport : Nat := 0x6e
def uwCpuPerformanceAndOverclockingSwitch : Nat := 0x6f

/-- A switch that is off is switched on. -/
def switchOn (index : Nat) (buf : List U8) : List U8 :=
  if buf.getD index 0 = 0x00 then buf.set index 0x01 else buf

/-- What is done with the content of the variable: the content to write, if
any. -/
def enabledOptions (buf : List U8) : Option (List U8) :=
  if buf.getD uwMemoryOverclockingSupport 0 ≠ 0x01 ∨
      buf.getD uwCpuPerformanceAndOverclockingSupport 0 ≠ 0x01 then
    none
  else
    let b1 := buf.getD uwMemoryOverclockingSwitch 0
    let b2 := buf.getD uwCpuPerformanceAndOverclockingSwitch 0
    if ¬ ((b1 = 0x00 ∨ b1 = 0x01) ∧ (b2 = 0x00 ∨ b2 = 0x01)) then
      none
    else if b1 = 0x00 ∨ b2 = 0x00 then
      some
        (switchOn uwCpuPerformanceAndOverclockingSwitch
          (switchOn uwMemoryOverclockingSwitch buf))
    else
      none

def uwShowHiddenBiosOptions (uniwillHasHiddenBiosOptions : Bool) :
    Efi Unit := do
  if uniwillHasHiddenBiosOptions = false then
    return ()
  else
    let enabled ← efi .efiEnabled
    if enabled = false then
      return ()
    else
      let probe ← efi (.getVariable 0)
      if probe.status ≠ .bufferTooSmall then
        return ()
      else if probe.size ≤ uwCpuPerformanceAndOverclockingSwitch then
        return ()
      else
        match ← efi (.kmalloc probe.size) with
        | none => return ()
        | some allocated =>
            let read ← efi (.getVariable probe.size)
            if read.status ≠ .success then
              return ()
            else
              -- the rest of the buffer keeps what was allocated
              let buf := read.data ++ allocated.drop read.data.length
              match enabledOptions buf with
              | none => return ()
              | some changed =>
                  let _ ← efi (.setVariable read.attr (changed.take read.size))
                  return ()

/-! ## The content -/

/-- The content of a variable that supports both options and does not show
both. -/
structure OffersOptions (bytes : List U8) : Prop where
  long : uwCpuPerformanceAndOverclockingSwitch < bytes.length
  memory : bytes.getD uwMemoryOverclockingSupport 0 = 0x01
  cpu : bytes.getD uwCpuPerformanceAndOverclockingSupport 0 = 0x01
  memorySwitch : bytes.getD uwMemoryOverclockingSwitch 0 = 0x00 ∨
    bytes.getD uwMemoryOverclockingSwitch 0 = 0x01
  cpuSwitch : bytes.getD uwCpuPerformanceAndOverclockingSwitch 0 = 0x00 ∨
    bytes.getD uwCpuPerformanceAndOverclockingSwitch 0 = 0x01
  hidden : bytes.getD uwMemoryOverclockingSwitch 0 = 0x00 ∨
    bytes.getD uwCpuPerformanceAndOverclockingSwitch 0 = 0x00

/-- Both switches on and nothing else changed. -/
def withOptions (bytes : List U8) : List U8 :=
  (bytes.set uwMemoryOverclockingSwitch 0x01).set
    uwCpuPerformanceAndOverclockingSwitch 0x01

theorem getD_set_self {index : Nat} {bytes : List U8}
    (inside : index < bytes.length) (value : U8) :
    (bytes.set index value).getD index 0 = value := by
  have stillInside : index < (bytes.set index value).length := by
    rwa [List.length_set]
  rw [List.getD_eq_getElem _ _ stillInside, List.getElem_set_self]

theorem getD_set_of_ne {index other : Nat} (apart : index ≠ other)
    (bytes : List U8) (value : U8) :
    (bytes.set index value).getD other 0 = bytes.getD other 0 := by
  rw [List.getD_eq_getElem?_getD, List.getD_eq_getElem?_getD,
    List.getElem?_set_ne apart]

theorem switchOn_eq {index : Nat} {bytes : List U8}
    (inside : index < bytes.length)
    (isSwitch : bytes.getD index 0 = 0x00 ∨ bytes.getD index 0 = 0x01) :
    switchOn index bytes = bytes.set index 0x01 := by
  unfold switchOn
  rcases isSwitch with isOff | isOn
  · rw [if_pos isOff]
  · have notOff : ¬ bytes.getD index 0 = 0x00 := by
      rw [isOn]
      decide
    have same : bytes[index] = 0x01 := by
      rw [← isOn, List.getD_eq_getElem _ _ inside]
    rw [if_neg notOff, ← same, List.set_getElem_self]

theorem enabledOptions_eq_some {bytes changed : List U8}
    (long : uwCpuPerformanceAndOverclockingSwitch < bytes.length)
    (enables : enabledOptions bytes = some changed) :
    OffersOptions bytes ∧ changed = withOptions bytes := by
  unfold enabledOptions at enables
  dsimp only at enables
  by_cases unsupported :
      bytes.getD uwMemoryOverclockingSupport 0 ≠ 0x01 ∨
        bytes.getD uwCpuPerformanceAndOverclockingSupport 0 ≠ 0x01
  · rw [if_pos unsupported] at enables
    cases enables
  rw [if_neg unsupported] at enables
  have supported := not_or.mp unsupported
  by_cases switches :
      (bytes.getD uwMemoryOverclockingSwitch 0 = 0x00 ∨
          bytes.getD uwMemoryOverclockingSwitch 0 = 0x01) ∧
        (bytes.getD uwCpuPerformanceAndOverclockingSwitch 0 = 0x00 ∨
          bytes.getD uwCpuPerformanceAndOverclockingSwitch 0 = 0x01)
  · rw [if_neg (not_not.mpr switches)] at enables
    by_cases hidden :
        bytes.getD uwMemoryOverclockingSwitch 0 = 0x00 ∨
          bytes.getD uwCpuPerformanceAndOverclockingSwitch 0 = 0x00
    · rw [if_pos hidden] at enables
      have isChanged := Option.some.inj enables
      have memoryInside : uwMemoryOverclockingSwitch < bytes.length := by
        have apart : uwMemoryOverclockingSwitch <
            uwCpuPerformanceAndOverclockingSwitch := by
          decide
        omega
      have cpuInside : uwCpuPerformanceAndOverclockingSwitch <
          (bytes.set uwMemoryOverclockingSwitch 0x01).length := by
        rwa [List.length_set]
      have cpuSwitch := switches.2
      rw [← getD_set_of_ne
        (show uwMemoryOverclockingSwitch ≠
          uwCpuPerformanceAndOverclockingSwitch by decide) bytes 0x01]
        at cpuSwitch
      rw [switchOn_eq memoryInside switches.1,
        switchOn_eq cpuInside cpuSwitch] at isChanged
      exact
        ⟨⟨long, not_not.mp supported.1, not_not.mp supported.2, switches.1,
          switches.2, hidden⟩, isChanged.symm⟩
    · rw [if_neg hidden] at enables
      cases enables
  · rw [if_pos switches] at enables
    cases enables

/-- Once both options are shown, there is nothing to offer. -/
theorem not_offersOptions_withOptions {bytes : List U8}
    (long : uwCpuPerformanceAndOverclockingSwitch < bytes.length) :
    ¬ OffersOptions (withOptions bytes) := by
  intro offers
  have on : ¬ (0x01 : U8) = 0x00 := by decide
  have memoryInside : uwMemoryOverclockingSwitch < bytes.length :=
    lt_trans (by decide) long
  have cpuInside : uwCpuPerformanceAndOverclockingSwitch <
      (bytes.set uwMemoryOverclockingSwitch 0x01).length := by
    rwa [List.length_set]
  rcases offers.hidden with memoryOff | cpuOff
  · rw [withOptions, getD_set_of_ne (by decide),
      getD_set_self memoryInside] at memoryOff
    exact on memoryOff
  · rw [withOptions, getD_set_self cpuInside] at cpuOff
    exact on cpuOff

/-! ## The firmware -/

/-- Any call of the firmware may fail.  A read that succeeds gives the
variable, and only a write changes it; one that fails does so or not. -/
structure HoldsVariable {σ : Type} (firmware : Environment efiSignature σ)
    (variable_ : σ → U32 × List U8) : Prop where
  keeps : ∀ request state,
    (∀ attr buf, request ≠ .setVariable attr buf) →
      variable_ (firmware request state).2 = variable_ state
  tells : ∀ size state,
    (firmware (.getVariable size) state).1.status = .bufferTooSmall →
      (firmware (.getVariable size) state).1.size =
        (variable_ state).2.length
  reads : ∀ size state,
    (firmware (.getVariable size) state).1.status = .success →
      (firmware (.getVariable size) state).1 =
        { status := .success
          attr := (variable_ state).1
          size := (variable_ state).2.length
          data := (variable_ state).2 }
  setsOrNot : ∀ attr buf state,
    variable_ (firmware (.setVariable attr buf) state).2 = variable_ state ∨
      variable_ (firmware (.setVariable attr buf) state).2 = (attr, buf)
  allocates : ∀ size state buf,
    (firmware (.kmalloc size) state).1 = some buf → buf.length = size

section Firmware

variable {σ : Type} {firmware : Environment efiSignature σ}
  {variable_ : σ → U32 × List U8}

def isWrite : EfiRequest → Bool
  | .setVariable _ _ => true
  | _ => false

/-- What a program does that found the variable like this: it leaves it
alone, or it offers the options and asks the firmware to show them. -/
def ShowsOptions (firmware : Environment efiSignature σ)
    (variable_ : σ → U32 × List U8) (found : U32 × List U8)
    (program : Efi Unit) (state : σ) : Prop :=
  let after := variable_ (program.run firmware state).2
  ((∀ request ∈ program.requests firmware state, isWrite request = false) ∧
      after = found) ∨
    (OffersOptions found.2 ∧
      (after = found ∨ after = (found.1, withOptions found.2)))

theorem ShowsOptions.return {found : U32 × List U8} {state : σ}
    (isFound : variable_ state = found) :
    ShowsOptions firmware variable_ found (pure ()) state :=
  Or.inl ⟨fun _ member => absurd member List.not_mem_nil, isFound⟩

/-- A request that is no write is without consequence. -/
theorem ShowsOptions.ask {found : U32 × List U8} {request : EfiRequest}
    {rest : request.Answer → Efi Unit} {state : σ}
    (isRead : isWrite request = false)
    (later :
      ShowsOptions firmware variable_ found
        (rest (firmware request state).1) (firmware request state).2) :
    ShowsOptions firmware variable_ found (efi request >>= rest) state := by
  rcases later with ⟨noWrite, after⟩ | offers
  · refine Or.inl ⟨?_, after⟩
    intro other member
    rcases List.mem_cons.mp member with rfl | inRest
    · exact isRead
    · exact noWrite other inRest
  · exact Or.inr offers

theorem HoldsVariable.keeps_read (holds : HoldsVariable firmware variable_)
    {request : EfiRequest} (isRead : isWrite request = false) (state : σ) :
    variable_ (firmware request state).2 = variable_ state := by
  apply holds.keeps
  rintro attr buf rfl
  cases isRead

theorem shows_uwShowHiddenBiosOptions
    (holds : HoldsVariable firmware variable_) (feature : Bool) (state : σ) :
    ShowsOptions firmware variable_ (variable_ state)
      (uwShowHiddenBiosOptions feature) state := by
  unfold uwShowHiddenBiosOptions
  by_cases unsupported : feature = false
  · rw [if_pos unsupported]
    exact ShowsOptions.return rfl
  rw [if_neg unsupported]
  apply ShowsOptions.ask rfl
  let enabled := firmware .efiEnabled state
  have sinceEnabled : variable_ enabled.2 = variable_ state :=
    holds.keeps_read rfl state
  by_cases disabled : enabled.1 = false
  · rw [if_pos disabled]
    exact ShowsOptions.return sinceEnabled
  rw [if_neg disabled]
  apply ShowsOptions.ask rfl
  let probe := firmware (.getVariable 0) enabled.2
  have sinceProbe : variable_ probe.2 = variable_ state :=
    (holds.keeps_read rfl enabled.2).trans sinceEnabled
  by_cases failed : probe.1.status ≠ .bufferTooSmall
  · rw [if_pos failed]
    exact ShowsOptions.return sinceProbe
  rw [if_neg failed]
  have isSize : probe.1.size = (variable_ state).2.length := by
    rw [holds.tells 0 enabled.2 (not_not.mp failed), sinceEnabled]
  by_cases short : probe.1.size ≤ uwCpuPerformanceAndOverclockingSwitch
  · rw [if_pos short]
    exact ShowsOptions.return sinceProbe
  rw [if_neg short]
  apply ShowsOptions.ask rfl
  let allocated := firmware (.kmalloc probe.1.size) probe.2
  have sinceAllocated : variable_ allocated.2 = variable_ state :=
    (holds.keeps_read rfl probe.2).trans sinceProbe
  cases buffer : (firmware (.kmalloc probe.1.size) probe.2).1 with
  | none => exact ShowsOptions.return sinceAllocated
  | some content =>
      have length : content.length = (variable_ state).2.length :=
        (holds.allocates _ _ _ buffer).trans isSize
      apply ShowsOptions.ask rfl
      let read := firmware (.getVariable probe.1.size) allocated.2
      have sinceRead : variable_ read.2 = variable_ state :=
        (holds.keeps_read rfl allocated.2).trans sinceAllocated
      by_cases unread : read.1.status ≠ .success
      · rw [if_pos unread]
        exact ShowsOptions.return sinceRead
      rw [if_neg unread]
      have isRead := holds.reads probe.1.size allocated.2 (not_not.mp unread)
      rw [sinceAllocated] at isRead
      rw [isRead]
      dsimp only
      have noRest : content.drop (variable_ state).2.length = [] := by
        rw [← length]
        exact List.drop_length
      rw [noRest, List.append_nil]
      cases enables : enabledOptions (variable_ state).2 with
      | none => exact ShowsOptions.return sinceRead
      | some changed =>
          have long : uwCpuPerformanceAndOverclockingSwitch <
              (variable_ state).2.length := by
            omega
          obtain ⟨offers, rfl⟩ := enabledOptions_eq_some long enables
          have whole :
              (withOptions (variable_ state).2).take
                  (variable_ state).2.length =
                withOptions (variable_ state).2 := by
            apply List.take_of_length_le
            rw [withOptions, List.length_set, List.length_set]
          dsimp only
          rw [whole]
          have written :=
            holds.setsOrNot (variable_ state).1
              (withOptions (variable_ state).2) read.2
          rw [sinceRead] at written
          exact Or.inr ⟨offers, written⟩

/-- Loading the driver once more. -/
def loadStep (firmware : Environment efiSignature σ) (feature : Bool)
    (state : σ) : σ :=
  ((uwShowHiddenBiosOptions feature).run firmware state).2

/-- A variable that does not offer the options, because they are shown or not
supported, is not written to. -/
theorem noWrite_of_not_offersOptions
    (holds : HoldsVariable firmware variable_) {state : σ}
    (offersNone : ¬ OffersOptions (variable_ state).2) (feature : Bool) :
    ∀ request ∈ (uwShowHiddenBiosOptions feature).requests firmware state,
      isWrite request = false := by
  rcases shows_uwShowHiddenBiosOptions holds feature state with
    ⟨noWrite, -⟩ | ⟨offers, -⟩
  · exact noWrite
  · exact absurd offers offersNone

/-- Loads leave the variable alone or show the options. -/
theorem unchanged_or_shown (holds : HoldsVariable firmware variable_)
    (features : List Bool) (state : σ) :
    let before := variable_ state
    let reached := runSteps (loadStep firmware) features state
    variable_ reached = before ∨
      (OffersOptions before.2 ∧
        variable_ reached = (before.1, withOptions before.2)) := by
  intro before reached
  apply runSteps_preserves (loadStep firmware) (fun found =>
    variable_ found = before ∨
      (OffersOptions before.2 ∧
        variable_ found = (before.1, withOptions before.2)))
  · intro feature found known
    have shows := shows_uwShowHiddenBiosOptions holds feature found
    rcases known with unchanged | ⟨offered, shown⟩
    · rw [unchanged] at shows
      rcases shows with ⟨-, kept⟩ | ⟨offers, kept | written⟩
      · exact Or.inl kept
      · exact Or.inl kept
      · exact Or.inr ⟨offers, written⟩
    · rcases shows with ⟨-, kept⟩ | ⟨offers, -⟩
      · exact Or.inr ⟨offered, kept.trans shown⟩
      · rw [shown] at offers
        exact absurd offers (not_offersOptions_withOptions offered.long)
  · exact Or.inl rfl

/-- However often the driver is loaded and whatever calls fail: the variable
is as it was, or it offered the options and has both switches on and nothing
else changed.  Then the driver does not write to it again, and it never
writes to one that did not offer the options in the first place. -/
theorem hiddenBiosOptions_shownOnce
    (holds : HoldsVariable firmware variable_) (features : List Bool)
    (state : σ) :
    let before := variable_ state
    let reached := runSteps (loadStep firmware) features state
    (variable_ reached = before ∨
      (OffersOptions before.2 ∧
        variable_ reached = (before.1, withOptions before.2) ∧
        ∀ feature, ∀ request ∈
            (uwShowHiddenBiosOptions feature).requests firmware reached,
          isWrite request = false)) ∧
      (¬ OffersOptions before.2 →
        variable_ reached = before ∧
          ∀ feature, ∀ request ∈
              (uwShowHiddenBiosOptions feature).requests firmware reached,
            isWrite request = false) := by
  intro before reached
  have invariant := unchanged_or_shown holds features state
  constructor
  · rcases invariant with unchanged | ⟨offered, shown⟩
    · exact Or.inl unchanged
    · have offersNone : ¬ OffersOptions (variable_ reached).2 := by
        rw [shown]
        exact not_offersOptions_withOptions offered.long
      exact
        Or.inr
          ⟨offered, shown, noWrite_of_not_offersOptions holds offersNone⟩
  · intro offersNone
    rcases invariant with unchanged | ⟨offered, -⟩
    · refine ⟨unchanged, noWrite_of_not_offersOptions holds ?_⟩
      rw [unchanged]
      exact offersNone
    · exact absurd offered offersNone

end Firmware

/-- A firmware that refuses some writes at first. -/
def refusingFirmware :
    Environment efiSignature ((U32 × List U8) × Nat)
  | .efiEnabled, state => (true, state)
  | .kmalloc size, state => (some (List.replicate size 0xa5), state)
  | .getVariable size, state =>
      if size < state.1.2.length then
        (⟨.bufferTooSmall, 0, state.1.2.length, []⟩, state)
      else (⟨.success, state.1.1, state.1.2.length, state.1.2⟩, state)
  | .setVariable attr buf, (found, refusals) =>
      if refusals = 0 then (.success, ((attr, buf), 0))
      else (.other, (found, refusals - 1))

theorem refusingFirmware_holds :
    HoldsVariable refusingFirmware Prod.fst where
  keeps request state isRead := by
    cases request with
    | efiEnabled => rfl
    | kmalloc size => rfl
    | getVariable size =>
        simp only [refusingFirmware]
        split <;> rfl
    | setVariable attr buf => exact absurd rfl (isRead attr buf)
  tells size state small := by
    simp only [refusingFirmware] at small ⊢
    by_cases short : size < state.1.2.length
    · rw [if_pos short]
    · rw [if_neg short] at small
      cases small
  reads size state success := by
    simp only [refusingFirmware] at success ⊢
    by_cases short : size < state.1.2.length
    · rw [if_pos short] at success
      cases success
    · rw [if_neg short]
  setsOrNot attr buf state := by
    simp only [refusingFirmware]
    split
    · exact Or.inr rfl
    · exact Or.inl rfl
  allocates size state buf isBuf := by
    cases isBuf
    exact List.length_replicate

/-- The first load is refused to show the memory options, and the second is
not. -/
theorem hiddenBiosOptions_shownOnce_refused :
    let bytes : List U8 :=
      ((List.replicate 0x80 0x01).set 0x33 0x00).set 0x34 0x77
    let reached :=
      runSteps (loadStep refusingFirmware) [true, true] ((7, bytes), 1)
    OffersOptions bytes ∧ reached.1 = (7, withOptions bytes) ∧
      ∀ request ∈
          (uwShowHiddenBiosOptions true).requests refusingFirmware reached,
        isWrite request = false := by
  intro bytes reached
  rcases (hiddenBiosOptions_shownOnce refusingFirmware_holds [true, true]
      ((7, bytes), 1)).1 with unchanged | ⟨offers, shown, noWrite⟩
  · exact absurd unchanged (by decide +kernel)
  · exact ⟨offers, shown, noWrite true⟩

end TuxedoDrivers.Uniwill
