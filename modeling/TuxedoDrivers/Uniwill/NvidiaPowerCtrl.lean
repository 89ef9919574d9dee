import TuxedoDrivers.Sysfs
import TuxedoDrivers.Uniwill.RamInvariants
import TuxedoDrivers.Uniwill.SettingRuns

/-!
# Power control of the NVIDIA GPU

The driver exports a general enable bit, one bit each for Dynamic Boost and
cTGP, and three offsets.  The general bit is not stored by a user: it follows
the other two, and every store computes it from a byte it has just read.  The
stores do not exclude each other, and any access to the EC can fail.
-/

namespace TuxedoDrivers.Uniwill

open Interaction

/-! ## Registers -/

def uwEcRegCtgpDbEnable : U16 := 0x0743
def uwEcRegCtgpDbEnableBitGeneralEnable : U8 := 0x01
def uwEcRegCtgpDbEnableBitDbEnable : U8 := 0x02
def uwEcRegCtgpDbEnableBitCtgpEnable : U8 := 0x04
def uwEcRegCtgpDbCtgpOffset : U16 := 0x0744
def uwEcRegCtgpDbTppOffset : U16 := 0x0745
def uwEcRegCtgpDbDbOffset : U16 := 0x0746

/-! ## Offsets -/

/-- A show that prints a register as `text` says. -/
def showRegister (register : U16) (text : U8 → String) :
    Driver (Except Int String) := do
  let result ← uniwillReadEcRam register
  if result.status < 0 then
    return .error result.status
  else
    return .ok (text result.data)

def offsetShow (register : U16) : Driver (Except Int String) :=
  showRegister register sysfsEmitByte

/-- A store of an offset; the result is a negative error or `count`. -/
def offsetStore (register : U16) (buf : String) (count : Nat) :
    Driver Int :=
  match kstrtou8 buf 0 with
  | .error result => return result
  | .ok data => do
      let result ← uniwillWriteEcRam register data
      if result.status < 0 then
        return result.status
      else
        return (count : Int)

def ctgpOffsetShow : Driver (Except Int String) :=
  offsetShow uwEcRegCtgpDbCtgpOffset

def ctgpOffsetStore : String → Nat → Driver Int :=
  offsetStore uwEcRegCtgpDbCtgpOffset

def dbOffsetShow : Driver (Except Int String) :=
  offsetShow uwEcRegCtgpDbDbOffset

def dbOffsetStore : String → Nat → Driver Int :=
  offsetStore uwEcRegCtgpDbDbOffset

def tppOffsetShow : Driver (Except Int String) :=
  offsetShow uwEcRegCtgpDbTppOffset

def tppOffsetStore : String → Nat → Driver Int :=
  offsetStore uwEcRegCtgpDbTppOffset

/-! ## Enable bits -/

def enableShow (bit : U8) : Driver (Except Int String) :=
  showRegister uwEcRegCtgpDbEnable fun data =>
    sysfsEmitByte (if data &&& bit ≠ 0 then 1 else 0)

/-- What a store of `bit` makes of the register: without `bit` the general
bit stays only for `other`. -/
def enableByte (bit other : U8) (enable : Bool) (data : U8) : U8 :=
  if enable = true then data ||| uwEcRegCtgpDbEnableBitGeneralEnable ||| bit
  else if data &&& other ≠ 0 then data &&& ~~~bit
  else data &&& ~~~(bit ||| uwEcRegCtgpDbEnableBitGeneralEnable)

def enableStore (bit other : U8) (buf : String) (count : Nat) :
    Driver Int :=
  match kstrtobool buf with
  | .error result => return result
  | .ok enable => do
      let read ← uniwillReadEcRam uwEcRegCtgpDbEnable
      if read.status < 0 then
        return read.status
      else
        let result ← uniwillWriteEcRam uwEcRegCtgpDbEnable
          (enableByte bit other enable read.data)
        if result.status < 0 then
          return result.status
        else
          return (count : Int)

def ctgpEnableShow : Driver (Except Int String) :=
  enableShow uwEcRegCtgpDbEnableBitCtgpEnable

def ctgpEnableStore : String → Nat → Driver Int :=
  enableStore uwEcRegCtgpDbEnableBitCtgpEnable uwEcRegCtgpDbEnableBitDbEnable

def dbEnableShow : Driver (Except Int String) :=
  enableShow uwEcRegCtgpDbEnableBitDbEnable

def dbEnableStore : String → Nat → Driver Int :=
  enableStore uwEcRegCtgpDbEnableBitDbEnable uwEcRegCtgpDbEnableBitCtgpEnable

/-! ## Probe -/

/-- Writes until one fails, whose status is the result. -/
def writeEach : List (U16 × U8) → Driver Int
  | [] => return 0
  | (register, data) :: rest => do
      let result ← uniwillWriteEcRam register data
      if result.status < 0 then
        return result.status
      else
        writeEach rest

def initDbAndCtgp : Driver Int :=
  writeEach
    [ (uwEcRegCtgpDbEnable,
        uwEcRegCtgpDbEnableBitGeneralEnable |||
          uwEcRegCtgpDbEnableBitDbEnable ||| uwEcRegCtgpDbEnableBitCtgpEnable),
      (uwEcRegCtgpDbCtgpOffset, 0), (uwEcRegCtgpDbTppOffset, 255),
      (uwEcRegCtgpDbDbOffset, 25) ]

/-- The names of the attributes; `DEBUG` adds all but the first. -/
def sysfsAttrs (debug : Bool) : List String :=
  "ctgp_offset" ::
    if debug = true then
      ["db_offset", "ctgp_enable", "db_enable", "tpp_offset"]
    else []

/-- The first status that is not zero. -/
def initSysfsAttrs (debug : Bool) (sysfsCreateFile : String → Int) : Int :=
  (((sysfsAttrs debug).map sysfsCreateFile).find? (· ≠ 0)).getD 0

/-- The tries to find the interface; `active` says for each number of
retries left whether it is there. -/
def retryInterface (active : Nat → Bool) : Nat → Int → Int
  | 0, result => result
  | retries + 1, _ =>
      if active (retries + 1) = true then 0
      else retryInterface active retries (-enodev)

def interfaceProbeRetries : Nat := 5

/-- What the probe finds: the interface, the device ids of the GPUs, and the
statuses of the attributes. -/
structure NvidiaPlatform where
  interfaceActive : Nat → Bool
  gpuDevices : List U16
  sysfsCreateFile : String → Int
  debug : Bool

def tuxedoNb02NvidiaPowerCtrlProbe (platform : NvidiaPlatform) :
    Driver Int :=
  let found := retryInterface platform.interfaceActive interfaceProbeRetries 0
  if found < 0 then
    return found
  else if (platform.gpuDevices.any fun device => device ≥ 0x2200) = false then
    return -enodev
  else do
    let result ← initDbAndCtgp
    if result < 0 then
      return result
    else
      let result := initSysfsAttrs platform.debug platform.sysfsCreateFile
      if result < 0 then
        return result
      else
        return 0

/-! ## Calls -/

inductive NvidiaAttr where
  | ctgpOffset
  | dbOffset
  | ctgpEnable
  | dbEnable
  | tppOffset
  deriving DecidableEq, Repr

namespace NvidiaAttr

def display : NvidiaAttr → Driver (Except Int String)
  | .ctgpOffset => ctgpOffsetShow
  | .dbOffset => dbOffsetShow
  | .ctgpEnable => ctgpEnableShow
  | .dbEnable => dbEnableShow
  | .tppOffset => tppOffsetShow

def store : NvidiaAttr → String → Nat → Driver Int
  | .ctgpOffset => ctgpOffsetStore
  | .dbOffset => dbOffsetStore
  | .ctgpEnable => ctgpEnableStore
  | .dbEnable => dbEnableStore
  | .tppOffset => tppOffsetStore

end NvidiaAttr

inductive NvidiaCall where
  | display (attr : NvidiaAttr)
  | store (attr : NvidiaAttr) (buf : String) (count : Nat)
  deriving DecidableEq, Repr

def NvidiaCall.program : NvidiaCall → Driver Unit
  | .display attr => (fun _ => ()) <$> attr.display
  | .store attr buf count => (fun _ => ()) <$> attr.store buf count

/-! ## The general bit -/

/-- The general bit is set exactly with one of the other two, and no further
bit is. -/
def EnableConsistent (data : U8) : Prop :=
  data &&& 0xf8 = 0 ∧
    (data &&& uwEcRegCtgpDbEnableBitGeneralEnable ≠ 0 ↔
      data &&& uwEcRegCtgpDbEnableBitDbEnable ≠ 0 ∨
        data &&& uwEcRegCtgpDbEnableBitCtgpEnable ≠ 0)

instance (data : U8) : Decidable (EnableConsistent data) :=
  inferInstanceAs (Decidable (_ ∧ _))

theorem enableConsistent_ctgp (enable : Bool) {data : U8}
    (consistent : EnableConsistent data) :
    EnableConsistent
      (enableByte uwEcRegCtgpDbEnableBitCtgpEnable
        uwEcRegCtgpDbEnableBitDbEnable enable data) := by
  revert enable data
  decide +kernel

theorem enableConsistent_db (enable : Bool) {data : U8}
    (consistent : EnableConsistent data) :
    EnableConsistent
      (enableByte uwEcRegCtgpDbEnableBitDbEnable
        uwEcRegCtgpDbEnableBitCtgpEnable enable data) := by
  revert enable data
  decide +kernel

/-- What may stand in a register: a consistent byte, anything in an offset,
and elsewhere what was there before. -/
def NvidiaAllowed (before : Ram) (address : U16) (data : U8) : Prop :=
  (address = uwEcRegCtgpDbEnable → EnableConsistent data) ∧
    (address < uwEcRegCtgpDbEnable ∨ uwEcRegCtgpDbDbOffset < address →
      data = before address)

section Calls

variable {before : Ram} {known : DriverState → Prop}

theorem nvidiaAllowed_offset {register : U16}
    (isOffset : uwEcRegCtgpDbEnable < register ∧
      register ≤ uwEcRegCtgpDbDbOffset) (data : U8) :
    NvidiaAllowed before register data := by
  constructor
  · rintro rfl
    exact absurd isOffset.1 (BitVec.lt_irrefl _)
  · rintro (below | above)
    · exact absurd below (BitVec.lt_asymm isOffset.1)
    · exact absurd isOffset.2 (BitVec.not_le.mpr above)

theorem nvidiaAllowed_enable {data : U8}
    (consistent : EnableConsistent data) :
    NvidiaAllowed before uwEcRegCtgpDbEnable data := by
  constructor
  · exact fun _ => consistent
  · intro outside
    exact absurd outside (by decide)

theorem offsetStore_keepsAllowed {register : U16}
    (isOffset : uwEcRegCtgpDbEnable < register ∧
      register ≤ uwEcRegCtgpDbDbOffset) (buf : String) (count : Nat) :
    KeepsAllowed (NvidiaAllowed before) known (fun _ => True)
      (offsetStore register buf count) := by
  unfold offsetStore
  cases kstrtou8 buf 0 with
  | error result => trivial
  | ok data =>
      apply Program.Guarantees.bind
        (keepsAllowed_write (nvidiaAllowed_offset isOffset data))
      intro result _
      exact Program.Guarantees.ite (fun _ => trivial) fun _ => trivial

/-- A store computes a consistent byte from what it read, which another store
may have replaced by now. -/
theorem enableStore_keepsAllowed {bit other : U8}
    (consistent : ∀ (enable : Bool) (data : U8), EnableConsistent data →
      EnableConsistent (enableByte bit other enable data))
    (buf : String) (count : Nat) :
    KeepsAllowed (NvidiaAllowed before) known (fun _ => True)
      (enableStore bit other buf count) := by
  unfold enableStore
  cases kstrtobool buf with
  | error result => trivial
  | ok enable =>
      apply Program.Guarantees.bind (keepsAllowed_read uwEcRegCtgpDbEnable)
      intro read shows
      apply Program.Guarantees.ite
      · exact fun _ => trivial
      · intro succeeded
        cases read with
        | fail left =>
            have failed : -eio < 0 := by decide
            exact absurd failed succeeded
        | ok data =>
            have found := (shows data rfl).1 rfl
            apply Program.Guarantees.bind
              (keepsAllowed_write
                (nvidiaAllowed_enable (consistent enable data found)))
            intro result _
            exact Program.Guarantees.ite (fun _ => trivial) fun _ => trivial

theorem showRegister_keepsAllowed (register : U16) (text : U8 → String) :
    KeepsAllowed (NvidiaAllowed before) known (fun _ => True)
      (showRegister register text) := by
  apply Program.Guarantees.bind (keepsAllowed_read register)
  intro result _
  exact Program.Guarantees.ite (fun _ => trivial) fun _ => trivial

theorem nvidiaCall_keepsAllowed (call : NvidiaCall) :
    KeepsAllowed (NvidiaAllowed before) known (fun _ => True)
      call.program := by
  cases call with
  | display attr =>
      have offset (register : U16) :
          KeepsAllowed (NvidiaAllowed before) known (fun _ => True)
            (offsetShow register) :=
        showRegister_keepsAllowed register sysfsEmitByte
      have enable (bit : U8) :
          KeepsAllowed (NvidiaAllowed before) known (fun _ => True)
            (enableShow bit) :=
        showRegister_keepsAllowed uwEcRegCtgpDbEnable _
      have shows : KeepsAllowed (NvidiaAllowed before) known (fun _ => True)
          attr.display := by
        cases attr with
        | ctgpOffset => exact offset _
        | dbOffset => exact offset _
        | ctgpEnable => exact enable _
        | dbEnable => exact enable _
        | tppOffset => exact offset _
      exact shows.bind fun _ _ => trivial
  | store attr buf count =>
      have stores : KeepsAllowed (NvidiaAllowed before) known (fun _ => True)
          (attr.store buf count) := by
        cases attr with
        | ctgpOffset => exact offsetStore_keepsAllowed (by decide) buf count
        | dbOffset => exact offsetStore_keepsAllowed (by decide) buf count
        | tppOffset => exact offsetStore_keepsAllowed (by decide) buf count
        | ctgpEnable =>
            exact
              enableStore_keepsAllowed
                (fun enable _ => enableConsistent_ctgp enable) buf count
        | dbEnable =>
            exact
              enableStore_keepsAllowed
                (fun enable _ => enableConsistent_db enable) buf count
      exact stores.bind fun _ _ => trivial

end Calls

/-! ## After the probe -/

section Probed

variable {σ : Type} {device : EcDevice σ} {ram : σ → Ram}

/-- Writes that all succeed are stored one after the other. -/
theorem run_writeEach (truthful : Truthful device ram)
    {writes : List (U16 × U8)} {machine : Machine σ}
    (succeeds : 0 ≤ (device.run (writeEach writes) machine).1) :
    ram (device.run (writeEach writes) machine).2.2 =
      writes.foldl
        (fun content write => Function.update content write.1 write.2)
        (ram machine.2) := by
  induction writes generalizing machine with
  | nil =>
      rfl
  | cons write rest inductionHypothesis =>
      rcases write with ⟨register, data⟩
      have stores := truthful.stores register data machine.2
      have failed : -eio < 0 := by decide
      simp only [writeEach, run_bind, run_uniwillWriteEcRam, run_ite,
        run_pure] at succeeds ⊢
      cases outcome : (device.write register data machine.2).1 with
      | ok =>
          simp only [outcome, EcWrite.status_ok, lt_irrefl, if_false]
            at succeeds ⊢
          have later := inductionHypothesis succeeds
          rw [stores outcome] at later
          exact later
      | fail =>
          simp only [outcome, EcWrite.status_fail, failed, if_true] at succeeds
          exact absurd succeeds (by decide)

/-- A probe that succeeds has initialised the registers. -/
theorem probe_succeeded {platform : NvidiaPlatform} {machine : Machine σ}
    (probed :
      (device.run (tuxedoNb02NvidiaPowerCtrlProbe platform) machine).1 = 0) :
    0 ≤ (device.run initDbAndCtgp machine).1 ∧
      (device.run (tuxedoNb02NvidiaPowerCtrlProbe platform) machine).2 =
        (device.run initDbAndCtgp machine).2 := by
  have noDevice : -enodev ≠ 0 := by decide
  unfold tuxedoNb02NvidiaPowerCtrlProbe at probed ⊢
  simp only [run_ite, run_bind, run_pure] at probed ⊢
  by_cases lost :
      retryInterface platform.interfaceActive interfaceProbeRetries 0 < 0
  · rw [if_pos lost] at probed
    have isZero :
        retryInterface platform.interfaceActive interfaceProbeRetries 0 = 0 :=
      probed
    omega
  · rw [if_neg lost] at probed ⊢
    cases gpu : platform.gpuDevices.any fun device => device ≥ 0x2200 with
    | false =>
        rw [if_pos gpu] at probed
        exact absurd probed noDevice
    | true =>
        rw [gpu] at probed
        simp only [Bool.true_eq_false, if_false] at probed ⊢
        by_cases failed : (device.run initDbAndCtgp machine).1 < 0
        · rw [if_pos failed] at probed
          have isZero : (device.run initDbAndCtgp machine).1 = 0 := probed
          omega
        · rw [if_neg failed]
          refine ⟨by omega, ?_⟩
          split <;> rfl

/-- A probe that succeeds has enabled everything. -/
theorem probe_enabled (truthful : Truthful device ram)
    {platform : NvidiaPlatform} {machine : Machine σ}
    (probed :
      (device.run (tuxedoNb02NvidiaPowerCtrlProbe platform) machine).1 = 0) :
    ∀ address, NvidiaAllowed (ram machine.2) address
      (ram (device.run (tuxedoNb02NvidiaPowerCtrlProbe platform)
        machine).2.2 address) := by
  obtain ⟨succeeds, reached⟩ := probe_succeeded probed
  have written : ram (device.run initDbAndCtgp machine).2.2 = _ :=
    run_writeEach truthful succeeds
  intro address
  rw [reached, written]
  simp only [List.foldl_cons, List.foldl_nil]
  constructor
  · rintro rfl
    rw [Function.update_of_ne (by decide), Function.update_of_ne (by decide),
      Function.update_of_ne (by decide), Function.update_self]
    decide
  · intro outside
    have apart (register : U16)
        (inside : uwEcRegCtgpDbEnable ≤ register ∧
          register ≤ uwEcRegCtgpDbDbOffset) : address ≠ register := by
      rintro rfl
      rcases outside with below | above
      · exact absurd inside.1 (BitVec.not_le.mpr below)
      · exact absurd inside.2 (BitVec.not_le.mpr above)
    rw [Function.update_of_ne (apart _ (by decide)),
      Function.update_of_ne (apart _ (by decide)),
      Function.update_of_ne (apart _ (by decide)),
      Function.update_of_ne (apart _ (by decide))]

/-- While any threads show and store any attributes, and any accesses fail,
the general bit is set exactly with one of the other two; beside the four
registers the RAM is what it was before the probe. -/
theorem nvidia_enableConsistent {ι : Type} [DecidableEq ι]
    (truthful : Truthful device ram) (platform : NvidiaPlatform)
    (machine : Machine σ)
    (probed :
      (device.run (tuxedoNb02NvidiaPowerCtrlProbe platform) machine).1 = 0)
    (calls : ι → List NvidiaCall) (schedule : List ι) :
    let started :=
      (device.run (tuxedoNb02NvidiaPowerCtrlProbe platform) machine).2
    let content :=
      ram (Threads.run device.environment schedule
        ⟨fun thread => (calls thread).forM NvidiaCall.program,
          started⟩).state.2
    EnableConsistent (content uwEcRegCtgpDbEnable) ∧
      ∀ address : U16,
        address < uwEcRegCtgpDbEnable ∨ uwEcRegCtgpDbDbOffset < address →
          content address = ram machine.2 address := by
  intro started content
  have ready := probe_enabled truthful probed
  have upholds :
      Upholds device.environment
        (HoldsAllowed (NvidiaAllowed (ram machine.2)) (fun _ => True) ram)
        _ _ :=
    truthful.upholds
  have each (thread : ι) :
      KeepsAllowed (NvidiaAllowed (ram machine.2)) (fun _ => True)
        (fun _ => True) ((calls thread).forM NvidiaCall.program) :=
    Program.Guarantees.forM nvidiaCall_keepsAllowed (calls thread)
  have invariant :=
    (Threads.run_guarantees upholds
      ⟨fun thread => (calls thread).forM NvidiaCall.program, started⟩
      ⟨ready, trivial⟩ each schedule).1.1
  exact
    ⟨(invariant uwEcRegCtgpDbEnable).1 rfl,
      fun address outside => (invariant address).2 outside⟩

end Probed

/-- Both bits are cleared at once.  One of the stores is lost, and the general
bit stays with the bit that is left. -/
theorem nvidia_enableConsistent_lost :
    let platform : NvidiaPlatform :=
      { interfaceActive := fun retries => decide (retries = 3)
        gpuDevices := [0x1f03, 0x2484]
        sysfsCreateFile := fun _ => 0
        debug := true }
    let started :=
      (flakyEc.run (tuxedoNb02NvidiaPowerCtrlProbe platform)
        ({}, fun _ => 0xff, List.replicate 9 true)).2
    let calls (thread : Bool) : List NvidiaCall :=
      if thread = true then [.store .ctgpEnable "0" 1]
      else [.store .dbEnable "off" 3]
    let content :=
      (Threads.run flakyEc.environment [true, false, true, false]
        ⟨fun thread => (calls thread).forM NvidiaCall.program,
          started⟩).state.2.1
    content uwEcRegCtgpDbEnable = 0x05 ∧
      EnableConsistent (content uwEcRegCtgpDbEnable) := by
  intro platform started calls content
  have consistent :=
    (nvidia_enableConsistent flakyEc_truthful platform
      ({}, fun _ => 0xff, List.replicate 9 true) (by decide +kernel) calls
      [true, false, true, false]).1
  exact ⟨by decide +kernel, consistent⟩

end TuxedoDrivers.Uniwill
