import Mathlib.Data.List.FinRange
import TuxedoDrivers.Uniwill.EcAccess

/-!
# Verified writes and the ROM ID

`uniwill_write_ec_ram_with_retry` writes a byte and reads it back, up to a
given number of times.  Its status variable is shared by the two ways an
attempt can end without success, an I/O error and a read-back of another
byte; after a mismatch it holds the status of the successful read.

The outcome of the attempts is described here by the device alone, and the
function is then compared with this description.  `set_rom_id` relies on it
for the 14 bytes of the ROM ID.
-/

namespace TuxedoDrivers.Uniwill

open Interaction

/-! ## Attempts as the device sees them -/

/-- How one write followed by a read-back goes. -/
inductive Attempt where
  | writeFailed
  | readFailed (left : U8)
  | readBack (byte : U8)
  deriving DecidableEq, Repr

namespace Attempt

def status : Attempt → Int
  | .writeFailed => -eio
  | .readFailed _ => -eio
  | .readBack _ => 0

def events (address : U16) (data : U8) : Attempt → List EcEvent
  | .writeFailed => [.write address data .fail]
  | .readFailed left =>
      [.write address data .ok, .read address (.fail left)]
  | .readBack byte => [.write address data .ok, .read address (.ok byte)]

@[simp]
theorem status_eq_zero_iff (attempt : Attempt) :
    attempt.status = 0 ↔ ∃ byte, attempt = .readBack byte := by
  cases attempt <;> simp [status]

end Attempt

section Attempts

variable {σ : Type} (device : EcDevice σ) (address : U16) (data : U8)

def EcDevice.attempt (ec : σ) : Attempt × σ :=
  match device.write address data ec with
  | (.fail, written) => (.writeFailed, written)
  | (.ok, written) =>
      match device.read address written with
      | (.fail left, control) => (.readFailed left, control)
      | (.ok byte, control) => (.readBack byte, control)

private theorem attempt_cases (ec : σ) :
    (∃ written,
      device.write address data ec = (.fail, written) ∧
        device.attempt address data ec = (.writeFailed, written)) ∨
    (∃ written left control,
      device.write address data ec = (.ok, written) ∧
        device.read address written = (.fail left, control) ∧
        device.attempt address data ec = (.readFailed left, control)) ∨
    (∃ written byte control,
      device.write address data ec = (.ok, written) ∧
        device.read address written = (.ok byte, control) ∧
        device.attempt address data ec = (.readBack byte, control)) := by
  unfold EcDevice.attempt
  rcases writeShape : device.write address data ec with ⟨_ | _, written⟩
  · rcases readShape : device.read address written with
      ⟨byte | left, control⟩
    · exact
        Or.inr (Or.inr
          ⟨written, byte, control, rfl, readShape, by simp [readShape]⟩)
    · exact
        Or.inr (Or.inl
          ⟨written, left, control, rfl, readShape, by simp [readShape]⟩)
  · exact Or.inl ⟨written, rfl, rfl⟩

/-- The last of at most `retries` attempts, of which the first verified one
ends the series; `last` is the attempt before. -/
def EcDevice.lastAttemptAfter : Nat → Attempt → σ → Attempt × σ
  | 0, last, ec => (last, ec)
  | retries + 1, _, ec =>
      if (device.attempt address data ec).1 = .readBack data then
        device.attempt address data ec
      else
        lastAttemptAfter retries
          (device.attempt address data ec).1
          (device.attempt address data ec).2

def EcDevice.lastAttempt (retries : Nat) (ec : σ) : Attempt × σ :=
  device.lastAttemptAfter address data retries .writeFailed ec

/-- One attempt of the loop: it returns after a match and goes on with the
status of the attempt otherwise. -/
private theorem writeAttempts_succ
    (retries : Nat) (status : Int) (machine : Machine σ) :
    device.run (writeAttempts address data (retries + 1) status) machine =
        (if (device.attempt address data machine.2).1 = .readBack data then
          (0, machine.1, (device.attempt address data machine.2).2)
        else
          device.run
            (writeAttempts address data retries
              (device.attempt address data machine.2).1.status)
            (machine.1, (device.attempt address data machine.2).2)) ∧
      device.trace (writeAttempts address data (retries + 1) status)
          machine =
        (device.attempt address data machine.2).1.events address data ++
          if (device.attempt address data machine.2).1 = .readBack data then
            []
          else
            device.trace
              (writeAttempts address data retries
                (device.attempt address data machine.2).1.status)
              (machine.1, (device.attempt address data machine.2).2) := by
  rcases attempt_cases device address data machine.2 with
    ⟨written, writeShape, shape⟩ |
    ⟨written, left, control, writeShape, readShape, shape⟩ |
    ⟨written, byte, control, writeShape, readShape, shape⟩
  · simp [writeAttempts, writeShape, shape, Attempt.status,
      Attempt.events]
  · simp [writeAttempts, writeShape, readShape, shape, Attempt.status,
      Attempt.events]
  · by_cases same : byte = data
    · simp [writeAttempts, writeShape, readShape, shape, same,
        Attempt.events]
    · simp [writeAttempts, writeShape, readShape, shape, same,
        Ne.symm same, Attempt.status, Attempt.events]

/-- The result of a verified write is the status of its last attempt, a
mismatch counting as success. -/
private theorem run_writeAttempts
    (retries : Nat) (last : Attempt) (machine : Machine σ) :
    device.run (writeAttempts address data retries last.status) machine =
      ((device.lastAttemptAfter address data retries last machine.2).1.status,
        machine.1,
        (device.lastAttemptAfter address data retries last machine.2).2) := by
  induction retries generalizing last machine with
  | zero =>
      rfl
  | succ retries inductionHypothesis =>
      rw [(writeAttempts_succ device address data retries last.status
        machine).1, EcDevice.lastAttemptAfter]
      by_cases verified :
          (device.attempt address data machine.2).1 = .readBack data
      · simp [verified, Attempt.status]
      · rw [if_neg verified, if_neg verified]
        exact inductionHypothesis _ _

/-- A series of at least one attempt ends with the accesses of the last. -/
private theorem trace_writeAttempts_ends
    (retries : Nat) (last : Attempt) (machine : Machine σ) :
    ∃ earlier,
      device.trace (writeAttempts address data (retries + 1) last.status)
          machine =
        earlier ++
          (device.lastAttemptAfter address data (retries + 1) last
            machine.2).1.events address data := by
  induction retries generalizing last machine with
  | zero =>
      rw [(writeAttempts_succ device address data 0 last.status machine).2,
        EcDevice.lastAttemptAfter]
      refine ⟨[], ?_⟩
      split <;> simp [EcDevice.lastAttemptAfter, writeAttempts]
  | succ retries inductionHypothesis =>
      rw [(writeAttempts_succ device address data (retries + 1) last.status
        machine).2, EcDevice.lastAttemptAfter]
      by_cases verified :
          (device.attempt address data machine.2).1 = .readBack data
      · exact ⟨[], by simp [verified]⟩
      · obtain ⟨earlier, shape⟩ :=
          inductionHypothesis (device.attempt address data machine.2).1
            (machine.1, (device.attempt address data machine.2).2)
        refine
          ⟨(device.attempt address data machine.2).1.events address data ++
            earlier, ?_⟩
        rw [if_neg verified, if_neg verified, shape, List.append_assoc]

/-- The last of at most `retries` reads, of which the first successful one
ends the series; `last` is the read before. -/
def EcDevice.lastReadAfter : Nat → EcRead → σ → EcRead × σ
  | 0, last, ec => (last, ec)
  | retries + 1, _, ec =>
      match device.read address ec with
      | (.ok byte, control) => (.ok byte, control)
      | (.fail left, control) =>
          lastReadAfter retries (.fail left) control

def EcDevice.lastRead (retries : Nat) (ec : σ) : EcRead × σ :=
  device.lastReadAfter address retries (.fail 0) ec

private theorem run_readAttempts
    (retries : Nat) (last : EcRead) (machine : Machine σ) :
    device.run (readAttempts address retries last) machine =
      ((device.lastReadAfter address retries last machine.2).1, machine.1,
        (device.lastReadAfter address retries last machine.2).2) := by
  induction retries generalizing last machine with
  | zero =>
      rfl
  | succ retries inductionHypothesis =>
      simp only [readAttempts, run_bind, run_uniwillReadEcRam, run_ite,
        run_pure, inductionHypothesis, EcDevice.lastReadAfter]
      rcases device.read address machine.2 with ⟨byte | left, control⟩
      · simp
      · simp

theorem run_uniwillReadEcRamWithRetry
    (retries : Nat) (machine : Machine σ) :
    device.run (uniwillReadEcRamWithRetry address retries) machine =
      ((device.lastRead address retries machine.2).1, machine.1,
        (device.lastRead address retries machine.2).2) :=
  run_readAttempts device address retries (.fail 0) machine

theorem run_uniwillWriteEcRamWithRetry
    (retries : Nat) (machine : Machine σ) :
    device.run (uniwillWriteEcRamWithRetry address data retries) machine =
      ((device.lastAttempt address data retries machine.2).1.status,
        machine.1,
        (device.lastAttempt address data retries machine.2).2) :=
  run_writeAttempts device address data retries .writeFailed machine

theorem trace_uniwillWriteEcRamWithRetry_ends
    {retries : Nat} (positive : 1 ≤ retries) (machine : Machine σ) :
    ∃ earlier,
      device.trace (uniwillWriteEcRamWithRetry address data retries)
          machine =
        earlier ++
          (device.lastAttempt address data retries machine.2).1.events
            address data := by
  obtain ⟨fewer, rfl⟩ := Nat.exists_eq_add_of_le' positive
  exact
    trace_writeAttempts_ends device address data fewer .writeFailed machine

end Attempts

/-- The accesses end with an accepted write of the byte and a successful
read-back of the same byte. -/
def EndsVerified (address : U16) (data : U8) (trace : List EcEvent) :
    Prop :=
  ∃ earlier,
    trace =
      earlier ++ [.write address data .ok, .read address (.ok data)]

/-- A verified write keeps its promise exactly when its last attempt is not
an accepted write that reads back as another byte. -/
theorem uniwillWriteEcRamWithRetry_verified_iff
    {σ : Type} (device : EcDevice σ) (address : U16) (data : U8)
    {retries : Nat} (positive : 1 ≤ retries) (machine : Machine σ) :
    ((device.run (uniwillWriteEcRamWithRetry address data retries)
          machine).1 = 0 →
        EndsVerified address data
          (device.trace (uniwillWriteEcRamWithRetry address data retries)
            machine)) ↔
      ∀ byte,
        (device.lastAttempt address data retries machine.2).1 =
            .readBack byte →
          byte = data := by
  obtain ⟨earlier, shape⟩ :=
    trace_uniwillWriteEcRamWithRetry_ends device address data positive
      machine
  rw [run_uniwillWriteEcRamWithRetry, shape]
  cases (device.lastAttempt address data retries machine.2).1 with
  | writeFailed =>
      simp
  | readFailed left =>
      simp
  | readBack byte =>
      simp only [Attempt.status, Attempt.events, forall_const,
        Attempt.readBack.injEq, forall_eq']
      constructor
      · rintro ⟨before, same⟩
        have lasts := congrArg List.getLast? same
        simpa using lasts
      · rintro rfl
        exact ⟨earlier, rfl⟩

/-! ## The ROM ID -/

abbrev uwEcRegRomidStart : U16 := 0x0770
abbrev uwEcRegRomidSpecial1 : U16 := 0x077e
abbrev uwEcRegRomidSpecial2 : U16 := 0x077f

def uwRomidPH4PxX : Vector U8 14 :=
  #v[0x0C, 0x00, 0x01, 0xFF, 0xFF, 0xFF, 0xFF, 0xFF, 0xFF, 0xFF, 0xFF,
    0xFF, 0xFF, 0xFF]

def uwRomidPH6PxX : Vector U8 14 :=
  #v[0x0C, 0x01, 0x01, 0xFF, 0xFF, 0xFF, 0xFF, 0xFF, 0xFF, 0xFF, 0xFF,
    0xFF, 0xFF, 0xFF]

/-- `uw_sku_romid_table`. -/
def uwSkuRomidTable : List (DmiSystemId (Vector U8 14)) :=
  [ ⟨[(.productSku, "IBP1XI08MK1"), (.productSerial, "PH6PRX")],
      uwRomidPH6PxX⟩,
    ⟨[(.productSku, "IBP1XI08MK1")], uwRomidPH4PxX⟩,
    ⟨[(.productSku, "IBP1XI08MK2"), (.productSerial, "PH6")],
      uwRomidPH6PxX⟩ ]

/-- The register of each ROM ID byte with the byte expected there. -/
def romidBytes (romid : Vector U8 14) : List (U16 × U8) :=
  (List.finRange 14).map fun i : Fin 14 =>
    (uwEcRegRomidStart + BitVec.ofNat 16 i.val, romid.get i)

/-- First loop of `set_rom_id`: the status, and whether some byte differs. -/
def compareRomid : List (U16 × U8) → Driver (Int × Bool)
  | [] => pure (0, false)
  | (address, expected) :: rest => do
      let reply ← uniwillReadEcRamWithRetry address 3
      if reply.status ≠ 0 then
        pure (reply.status, false)
      else if reply.data ≠ expected then
        pure (0, true)
      else
        compareRomid rest

/-- Second loop of `set_rom_id`. -/
def writeRomid : List (U16 × U8) → Driver Int
  | [] => pure 0
  | (address, expected) :: rest => do
      let ret ← uniwillWriteEcRamWithRetry address expected 3
      if ret ≠ 0 then
        pure ret
      else
        writeRomid rest

def setRomId (dmi : Dmi) : Driver Int :=
  match dmiFirstMatch dmi uwSkuRomidTable with
  | none => pure 0
  | some entry => do
      let compared ← compareRomid (romidBytes entry.driverData)
      if compared.1 ≠ 0 then
        pure compared.1
      else if compared.2 = true then
        let ret ← uniwillWriteEcRamWithRetry uwEcRegRomidSpecial1 0xA5 3
        if ret ≠ 0 then
          pure ret
        else
          let ret ← uniwillWriteEcRamWithRetry uwEcRegRomidSpecial2 0x78 3
          if ret ≠ 0 then
            pure ret
          else
            writeRomid (romidBytes entry.driverData)
      else
        pure 0

/-- The last read of a register in a trace. -/
def lastObserved (address : U16) (trace : List EcEvent) : Option EcRead :=
  (trace.filterMap fun
    | .read read outcome => if read = address then some outcome else none
    | .write _ _ _ => none).getLast?

theorem lastObserved_append (address : U16) (earlier later : List EcEvent) :
    lastObserved address (earlier ++ later) =
      (lastObserved address later).or (lastObserved address earlier) := by
  simp [lastObserved, List.getLast?_append]

theorem lastObserved_eq_none {address : U16} {trace : List EcEvent}
    (elsewhere : ∀ event ∈ trace, event.address ≠ address) :
    lastObserved address trace = none := by
  rw [lastObserved, List.getLast?_eq_none_iff, List.filterMap_eq_nil_iff]
  intro event member
  cases event with
  | read read outcome =>
      exact if_neg (elsewhere _ member)
  | write written data outcome =>
      rfl

section Romid

variable {σ : Type} (device : EcDevice σ)

/-- The last attempts of a series of verified writes with three attempts
each; an I/O error ends the series. -/
def EcDevice.verifiedWrites : List (U16 × U8) → σ → List Attempt
  | [], _ => []
  | (address, data) :: rest, ec =>
      (device.lastAttempt address data 3 ec).1 ::
        if (device.lastAttempt address data 3 ec).1.status = 0 then
          verifiedWrites rest (device.lastAttempt address data 3 ec).2
        else
          []

/-- The EC at the first byte that reads back as another one after all bytes
before it read back as expected; a series of reads that only fails ends the
comparison. -/
def EcDevice.afterDifference : List (U16 × U8) → σ → Option σ
  | [], _ => none
  | (address, expected) :: rest, ec =>
      match device.lastRead address 3 ec with
      | (.fail _, _) => none
      | (.ok byte, control) =>
          if byte = expected then afterDifference rest control
          else some control

/-- The first loop finds a difference exactly when the device answers with
one. -/
private theorem afterDifference_eq
    (bytes : List (U16 × U8)) (machine : Machine σ) :
    device.afterDifference bytes machine.2 =
      if (device.run (compareRomid bytes) machine).1 = (0, true) then
        some (device.run (compareRomid bytes) machine).2.2
      else
        none := by
  induction bytes generalizing machine with
  | nil =>
      simp [EcDevice.afterDifference, compareRomid]
  | cons byte rest inductionHypothesis =>
      rcases byte with ⟨address, expected⟩
      simp only [EcDevice.afterDifference, compareRomid, run_bind, run_ite,
        run_pure, run_uniwillReadEcRamWithRetry]
      rcases device.lastRead address 3 machine.2 with
        ⟨byte | left, control⟩
      · by_cases same : byte = expected
        · simpa [same] using inductionHypothesis (machine.1, control)
        · simp [same]
      · simp

/-- What a read with retries returns is what it last observed. -/
private theorem lastObserved_readAttempts
    (address : U16) (retries : Nat) (last : EcRead)
    (machine : Machine σ) :
    lastObserved address
        (device.trace (readAttempts address (retries + 1) last) machine) =
      some
        (device.run (readAttempts address (retries + 1) last)
          machine).1 := by
  induction retries generalizing last machine with
  | zero =>
      simp only [readAttempts, trace_bind, trace_uniwillReadEcRam,
        run_uniwillReadEcRam, run_bind, trace_pure, run_pure, ite_self]
      simp [lastObserved]
  | succ retries inductionHypothesis =>
      rw [readAttempts]
      simp only [trace_bind, trace_uniwillReadEcRam, run_uniwillReadEcRam,
        run_bind, trace_ite, run_ite, trace_pure, run_pure]
      split
      · rw [lastObserved_append, inductionHypothesis]
        rfl
      · simp [lastObserved]

private theorem writeRomid_within
    {registers : U16 → Prop} {writes : List (U16 × U8)}
    (within : ∀ register ∈ writes.map Prod.fst, registers register) :
    (writeRomid writes).Asks (AccessWithin registers) := by
  induction writes with
  | nil =>
      trivial
  | cons write rest inductionHypothesis =>
      obtain ⟨headWithin, restWithin⟩ := List.forall_mem_cons.mp within
      refine
        (uniwillWriteEcRamWithRetry_within headWithin write.2 3).bind
          fun ret => ?_
      exact
        Program.Asks.ite (fun _ => trivial)
          (fun _ => inductionHypothesis restWithin)

/-- The second loop succeeds when every series of attempts ends with a
successful read-back, of whatever byte. -/
private theorem run_writeRomid_eq_zero_iff
    (writes : List (U16 × U8)) (machine : Machine σ) :
    (device.run (writeRomid writes) machine).1 = 0 ↔
      ∀ attempt ∈ device.verifiedWrites writes machine.2,
        attempt.status = 0 := by
  induction writes generalizing machine with
  | nil =>
      simp [writeRomid, EcDevice.verifiedWrites]
  | cons write rest inductionHypothesis =>
      simp only [writeRomid, EcDevice.verifiedWrites, run_bind,
        run_uniwillWriteEcRamWithRetry, run_ite, run_pure,
        List.forall_mem_cons]
      by_cases succeeds :
          (device.lastAttempt write.1 write.2 3 machine.2).1.status = 0
      · rw [if_neg (not_not.mpr succeeds), if_pos succeeds,
          inductionHypothesis]
        simp [succeeds]
      · rw [if_pos succeeds]
        simp [succeeds]

/-- The attempt ends with a read-back, and this is also the last time the
trace observes the register. -/
def EndsObserved (trace : List EcEvent) (write : U16 × U8)
    (attempt : Attempt) : Prop :=
  ∃ byte, attempt = .readBack byte ∧
    lastObserved write.1 trace = some (.ok byte)

theorem EndsObserved.append_left
    {later : List EcEvent} {write : U16 × U8} {attempt : Attempt}
    (ends : EndsObserved later write attempt) (earlier : List EcEvent) :
    EndsObserved (earlier ++ later) write attempt := by
  obtain ⟨byte, same, observed⟩ := ends
  exact ⟨byte, same, by rw [lastObserved_append, observed]; rfl⟩

private theorem trace_writeRomid_cons
    {address : U16} {data : U8} {rest : List (U16 × U8)}
    {machine : Machine σ}
    (succeeds :
      (device.lastAttempt address data 3 machine.2).1.status = 0) :
    device.trace (writeRomid ((address, data) :: rest)) machine =
      device.trace (uniwillWriteEcRamWithRetry address data 3) machine ++
        device.trace (writeRomid rest)
          (machine.1, (device.lastAttempt address data 3 machine.2).2) := by
  simp only [writeRomid, trace_bind, run_uniwillWriteEcRamWithRetry,
    trace_ite]
  rw [if_neg (not_not.mpr succeeds)]

/-- When the second loop succeeds, each register was last observed as the
byte its last attempt read back. -/
private theorem lastObserved_writeRomid
    (writes : List (U16 × U8)) (machine : Machine σ)
    (distinct : (writes.map Prod.fst).Nodup)
    (succeeds :
      ∀ attempt ∈ device.verifiedWrites writes machine.2,
        attempt.status = 0) :
    List.Forall₂
      (EndsObserved (device.trace (writeRomid writes) machine))
      writes (device.verifiedWrites writes machine.2) := by
  induction writes generalizing machine with
  | nil =>
      exact List.Forall₂.nil
  | cons write rest inductionHypothesis =>
      rcases write with ⟨address, data⟩
      rw [EcDevice.verifiedWrites] at succeeds ⊢
      have headSucceeds := succeeds _ List.mem_cons_self
      rw [if_pos headSucceeds] at succeeds ⊢
      obtain ⟨headAbsent, restDistinct⟩ := List.nodup_cons.mp distinct
      obtain ⟨earlier, shape⟩ :=
        trace_uniwillWriteEcRamWithRetry_ends device address data
          (by decide : 1 ≤ 3) machine
      have restObserved :=
        inductionHypothesis
          (machine.1, (device.lastAttempt address data 3 machine.2).2)
          restDistinct
          (fun attempt member =>
            succeeds attempt (List.mem_cons_of_mem _ member))
      rw [trace_writeRomid_cons device headSucceeds]
      constructor
      · have elsewhere :
            lastObserved address
                (device.trace (writeRomid rest)
                  (machine.1,
                    (device.lastAttempt address data 3 machine.2).2)) =
              none := by
          apply lastObserved_eq_none
          intro event member
          exact
            address_of_mem_trace
              (writeRomid_within fun _ among =>
                ne_of_mem_of_not_mem among headAbsent)
              member
        rw [EndsObserved, lastObserved_append, elsewhere, shape,
          lastObserved_append]
        cases lastShape :
            (device.lastAttempt address data 3 machine.2).1 with
        | writeFailed =>
            simp [lastShape] at headSucceeds
        | readFailed left =>
            simp [lastShape] at headSucceeds
        | readBack byte =>
            exact ⟨byte, rfl, by simp [lastObserved, Attempt.events]⟩
      · exact restObserved.imp fun _ _ ends => ends.append_left _

private theorem compareRomid_within
    {registers : U16 → Prop} {bytes : List (U16 × U8)}
    (within : ∀ register ∈ bytes.map Prod.fst, registers register) :
    (compareRomid bytes).Asks (AccessWithin registers) := by
  induction bytes with
  | nil =>
      trivial
  | cons byte rest inductionHypothesis =>
      obtain ⟨headWithin, restWithin⟩ := List.forall_mem_cons.mp within
      refine
        (uniwillReadEcRamWithRetry_within headWithin 3).bind
          fun reply => ?_
      refine Program.Asks.ite (fun _ => trivial) fun _ => ?_
      exact
        Program.Asks.ite (fun _ => trivial)
          (fun _ => inductionHypothesis restWithin)

/-- The registers of the ROM ID and the two that unlock them. -/
def RomidRegister (address : U16) : Prop :=
  address ∈
    uwEcRegRomidSpecial1 :: uwEcRegRomidSpecial2 ::
      (List.finRange 14).map fun i =>
        uwEcRegRomidStart + BitVec.ofNat 16 i.val

instance (address : U16) : Decidable (RomidRegister address) :=
  inferInstanceAs (Decidable (address ∈ _))

private theorem romidRegister_of_mem (romid : Vector U8 14) :
    ∀ register ∈ (romidBytes romid).map Prod.fst,
      RomidRegister register := by
  intro register member
  rw [romidBytes, List.map_map] at member
  exact List.mem_cons_of_mem _ (List.mem_cons_of_mem _ member)

/-- `set_rom_id` touches no other register and no static variable. -/
theorem setRomId_within (dmi : Dmi) :
    (setRomId dmi).Asks (AccessWithin RomidRegister) := by
  unfold setRomId
  cases dmiFirstMatch dmi uwSkuRomidTable with
  | none =>
      trivial
  | some entry =>
      have bytes := romidRegister_of_mem entry.driverData
      have write : ∀ {address : U16} (data : U8), RomidRegister address →
          (uniwillWriteEcRamWithRetry address data 3).Asks
            (AccessWithin RomidRegister) :=
        fun data within => uniwillWriteEcRamWithRetry_within within data 3
      refine (compareRomid_within bytes).bind fun compared => ?_
      refine Program.Asks.ite (fun _ => trivial) fun _ => ?_
      refine Program.Asks.ite (fun _ => ?_) fun _ => trivial
      refine (write _ List.mem_cons_self).bind fun ret => ?_
      refine Program.Asks.ite (fun _ => trivial) fun _ => ?_
      refine
        (write _ (List.mem_cons_of_mem _ List.mem_cons_self)).bind
          fun ret => ?_
      refine Program.Asks.ite (fun _ => trivial) fun _ => ?_
      exact writeRomid_within bytes

/-- When the first loop finds no difference, each register was last observed
as the expected byte. -/
private theorem lastObserved_compareRomid
    (bytes : List (U16 × U8)) (machine : Machine σ)
    (distinct : (bytes.map Prod.fst).Nodup)
    (equal :
      (device.run (compareRomid bytes) machine).1 = (0, false)) :
    ∀ byte ∈ bytes,
      lastObserved byte.1 (device.trace (compareRomid bytes) machine) =
        some (.ok byte.2) := by
  induction bytes generalizing machine with
  | nil =>
      simp
  | cons byte rest inductionHypothesis =>
      rcases byte with ⟨address, expected⟩
      obtain ⟨headAbsent, restDistinct⟩ := List.nodup_cons.mp distinct
      have read :=
        lastObserved_readAttempts device address 2 (.fail 0) machine
      rw [← uniwillReadEcRamWithRetry] at read
      simp only [compareRomid, run_bind, run_ite, run_pure] at equal
      rw [compareRomid, trace_bind]
      generalize device.run (uniwillReadEcRamWithRetry address 3)
        machine = replied at read equal ⊢
      rcases replied with ⟨data | left, after⟩
      · by_cases same : data = expected
        · subst same
          simp only [EcRead.status_ok, EcRead.data_ok, ne_eq,
            not_true_eq_false, ↓reduceIte] at equal ⊢
          have restObserved :=
            inductionHypothesis after restDistinct equal
          rw [List.forall_mem_cons]
          constructor
          · rw [lastObserved_append, lastObserved_eq_none, read]
            · rfl
            · intro event member
              exact
                address_of_mem_trace
                  (compareRomid_within fun _ among =>
                    ne_of_mem_of_not_mem among headAbsent)
                  member
          · intro byte member
            rw [lastObserved_append, restObserved byte member]
            rfl
        · simp [same] at equal
      · simp at equal

/-- Every ROM ID byte was last observed as expected. -/
def RomidObserved (romid : Vector U8 14) (trace : List EcEvent) : Prop :=
  ∀ byte ∈ romidBytes romid,
    lastObserved byte.1 trace = some (.ok byte.2)

/-- The verified writes of a correction, in order. -/
def romidWrites (romid : Vector U8 14) : List (U16 × U8) :=
  (uwEcRegRomidSpecial1, 0xA5) :: (uwEcRegRomidSpecial2, 0x78) ::
    romidBytes romid

/-- If a byte of the ROM ID reads back as another one and no series of
attempts of the correction ends with an I/O error, the last attempt at each
ROM ID byte reads the byte back. -/
def EcDevice.RomidReadsBack (device : EcDevice σ) (romid : Vector U8 14)
    (ec : σ) : Prop :=
  ∀ differing ∈ device.afterDifference (romidBytes romid) ec,
    let attempts := device.verifiedWrites (romidWrites romid) differing
    (∀ attempt ∈ attempts, attempt.status = 0) →
      attempts.drop 2 =
        (romidBytes romid).map fun byte => Attempt.readBack byte.2

private theorem romidWrites_distinct (romid : Vector U8 14) :
    ((romidWrites romid).map Prod.fst).Nodup := by
  have addresses :
      (romidWrites romid).map Prod.fst =
        uwEcRegRomidSpecial1 :: uwEcRegRomidSpecial2 ::
          (List.finRange 14).map fun i : Fin 14 =>
            uwEcRegRomidStart + BitVec.ofNat 16 i.val := by
    simp [romidWrites, romidBytes]
  rw [addresses]
  decide

private theorem observed_iff_readBack
    {trace : List EcEvent}
    {writes : List (U16 × U8)} {attempts : List Attempt}
    (last : List.Forall₂ (EndsObserved trace) writes attempts) :
    (∀ write ∈ writes,
        lastObserved write.1 trace = some (.ok write.2)) ↔
      attempts = writes.map fun write => Attempt.readBack write.2 := by
  induction last with
  | nil =>
      simp
  | cons head _ inductionHypothesis =>
      obtain ⟨byte, rfl, seen⟩ := head
      rw [List.forall_mem_cons, inductionHypothesis]
      simp [seen]

/-- The special writes and the second loop are one series of verified
writes. -/
private theorem setRomId_eq
    {dmi : Dmi} {entry : DmiSystemId (Vector U8 14)}
    (matched : dmiFirstMatch dmi uwSkuRomidTable = some entry) :
    setRomId dmi = (do
      let compared ← compareRomid (romidBytes entry.driverData)
      if compared.1 ≠ 0 then
        pure compared.1
      else if compared.2 = true then
        writeRomid (romidWrites entry.driverData)
      else
        pure 0) := by
  rw [setRomId, matched]
  rfl

theorem setRomId_observed_iff
    {dmi : Dmi} {entry : DmiSystemId (Vector U8 14)}
    (matched : dmiFirstMatch dmi uwSkuRomidTable = some entry)
    (machine : Machine σ) :
    ((device.run (setRomId dmi) machine).1 = 0 →
        RomidObserved entry.driverData
          (device.trace (setRomId dmi) machine)) ↔
      device.RomidReadsBack entry.driverData machine.2 := by
  have compareObserved :=
    lastObserved_compareRomid device (romidBytes entry.driverData) machine
  have distinct := romidWrites_distinct entry.driverData
  unfold EcDevice.RomidReadsBack
  rw [setRomId_eq matched, afterDifference_eq]
  simp only [run_bind, trace_bind, run_ite, trace_ite, run_pure,
    trace_pure]
  generalize device.trace (compareRomid (romidBytes entry.driverData))
    machine = compareTrace at compareObserved ⊢
  generalize device.run (compareRomid (romidBytes entry.driverData))
    machine = compared at compareObserved ⊢
  rcases compared with ⟨⟨ret, romidFalse⟩, after⟩
  by_cases ioError : ret = 0
  · subst ioError
    cases romidFalse with
    | false =>
        have bytesDistinct :=
          (List.nodup_cons.mp (List.nodup_cons.mp distinct).2).2
        simpa [RomidObserved] using compareObserved bytesDistinct rfl
    | true =>
        simp only [ne_eq, not_true_eq_false, ↓reduceIte,
          run_writeRomid_eq_zero_iff, Option.mem_some_iff, forall_eq']
        refine forall_congr' fun succeeds => ?_
        have last :=
          lastObserved_writeRomid device (romidWrites entry.driverData)
            after distinct succeeds
        exact
          observed_iff_readBack
            ((List.forall₂_drop 2 last).imp
              fun _ _ ends => ends.append_left compareTrace)
  · simp [ioError]

end Romid

/-- What the callers of the verified writes rely on, and when they get it:
the result 0 of a verified write stands for a read-back of the byte unless
the last attempt reads back another byte, and the result 0 of `set_rom_id`
stands for 14 observed bytes unless this happens to one of them. -/
theorem verifiedWrites_iff
    {σ : Type} (device : EcDevice σ) (machine : Machine σ) :
    (∀ address data retries, 1 ≤ retries →
      (((device.run (uniwillWriteEcRamWithRetry address data retries)
            machine).1 = 0 →
          EndsVerified address data
            (device.trace (uniwillWriteEcRamWithRetry address data retries)
              machine)) ↔
        ∀ byte,
          (device.lastAttempt address data retries machine.2).1 =
              .readBack byte →
            byte = data)) ∧
    (∀ dmi entry, dmiFirstMatch dmi uwSkuRomidTable = some entry →
      (((device.run (setRomId dmi) machine).1 = 0 →
          RomidObserved entry.driverData
            (device.trace (setRomId dmi) machine)) ↔
        device.RomidReadsBack entry.driverData machine.2)) :=
  ⟨fun address data _ positive =>
      uniwillWriteEcRamWithRetry_verified_iff device address data positive
        machine,
    fun _ _ matched => setRomId_observed_iff device matched machine⟩

/-- A machine of the ROM ID table whose EC RAM holds zeros. -/
def ibpMachine : Dmi
  | .productSku => some "IBP1XI08MK1"
  | _ => none

theorem verifiedWrites_iff_zeroRam :
    EndsVerified 0x0770 0x0C
        (reliableEc.trace (uniwillWriteEcRamWithRetry 0x0770 0x0C 3)
          ({}, fun _ => 0)) ∧
      ((reliableEc.run (setRomId ibpMachine) ({}, fun _ => 0)).1 = 0 →
        RomidObserved uwRomidPH4PxX
          (reliableEc.trace (setRomId ibpMachine) ({}, fun _ => 0))) := by
  have both := verifiedWrites_iff reliableEc ({}, fun _ => 0)
  refine
    ⟨(both.1 0x0770 0x0C 3 (by decide)).mpr ?_ (by decide),
      (both.2 ibpMachine ⟨[(.productSku, "IBP1XI08MK1")], uwRomidPH4PxX⟩
        rfl).mpr ?_⟩
  · intro byte last
    exact (Attempt.readBack.inj last).symm
  · intro ec differing
    obtain rfl : (fun _ => 0) = ec := Option.some.inj differing
    decide

/-- An EC that accepts writes of the byte and ignores them. -/
def ignoringRam : FaultyRam where
  ram := fun _ => 0
  outcomes := List.replicate 6 ⟨true, false, 0⟩

/-- Three ignored writes: the result is 0 and the byte was never there. -/
theorem uniwillWriteEcRamWithRetry_ignored :
    (faultyEc.run (uniwillWriteEcRamWithRetry 0x0770 0x0C 3)
        ({}, ignoringRam)).1 = 0 ∧
      ¬ EndsVerified 0x0770 0x0C
          (faultyEc.trace (uniwillWriteEcRamWithRetry 0x0770 0x0C 3)
            ({}, ignoringRam)) := by
  refine ⟨by decide, ?_⟩
  rintro ⟨earlier, same⟩
  have last :
      (faultyEc.trace (uniwillWriteEcRamWithRetry 0x0770 0x0C 3)
          ({}, ignoringRam)).getLast? =
        some (.read 0x0770 (.ok 0)) := by
    decide
  rw [same, List.getLast?_append] at last
  cases last

end TuxedoDrivers.Uniwill
