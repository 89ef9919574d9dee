import TuxedoDrivers.Interaction.LockedCalls
import TuxedoDrivers.Nb05.EcRam

/-!
# The ports to the EC RAM of the NB05 machines

`tuxedo_nb05_ec.c` reaches a byte of the EC RAM by six accesses to two I/O
ports: an index and a data port, behind them an address and a data register
of the I2EC interface, and behind these the two halves of the address and the
byte itself.  One mutex keeps the accesses of two calls apart.

The main result is that the rest of the drivers may take a call for one step
on plain RAM, whatever the threads do between each other.
-/

namespace TuxedoDrivers.Nb05

open Interaction

/-! ## The accesses -/

inductive PortRequest where
  | outb (value : U8) (port : U16)
  | inb (port : U16)

abbrev PortRequest.Answer : PortRequest → Type
  | .outb _ _ => Unit
  | .inb _ => U8

abbrev portSignature : Signature :=
  ⟨PortRequest, PortRequest.Answer⟩

abbrev Port (α : Type) : Type :=
  Program portSignature α

def outb (value : U8) (port : U16) : Port Unit :=
  Program.request (S := portSignature) (.outb value port)

def inb (port : U16) : Port U8 :=
  Program.request (S := portSignature) (.inb port)

abbrev ecPortAddr : U16 := 0x4e
abbrev ecPortData : U16 := 0x4f

abbrev i2ecRegAddr : U8 := 0x2e
abbrev i2ecRegData : U8 := 0x2f

abbrev i2ecAddrLow : U8 := 0x10
abbrev i2ecAddrHigh : U8 := 0x11
abbrev i2ecAddrData : U8 := 0x12

def ioWrite (reg data : U8) : Port Unit := do
  outb reg ecPortAddr
  outb data ecPortData

def ioRead (reg : U8) : Port U8 := do
  outb reg ecPortAddr
  inb ecPortData

def addrHigh (address : U16) : U8 :=
  ((address >>> 8) &&& 0xff).setWidth 8

def addrLow (address : U16) : U8 :=
  (address &&& 0xff).setWidth 8

/-- The writes with which both calls begin. -/
def selectEcRam (address : U16) : Port Unit := do
  ioWrite i2ecRegAddr i2ecAddrHigh
  ioWrite i2ecRegData (addrHigh address)
  ioWrite i2ecRegAddr i2ecAddrLow
  ioWrite i2ecRegData (addrLow address)
  ioWrite i2ecRegAddr i2ecAddrData

/-- What `nb05_read_ec_ram` does with the mutex. -/
def readEcRamByPorts (address : U16) : Port U8 := do
  selectEcRam address
  ioRead i2ecRegData

/-- What `nb05_write_ec_ram` does with the mutex. -/
def writeEcRamByPorts (address : U16) (data : U8) : Port Unit := do
  selectEcRam address
  ioWrite i2ecRegData data

/-- The calls, each under `nb05_ec_access_lock`. -/
def byPorts :
    (call : ecSignature.Request) →
      Implementation Unit Unit portSignature (ecSignature.Answer call)
  | .readEcRam address => .underLock fun _ => readEcRamByPorts address
  | .writeEcRam address data =>
      .underLock fun _ => writeEcRamByPorts address data

/-! ## The EC behind the ports -/

/-- The registers that select a byte, and the bytes. -/
structure EcPorts where
  index : U8
  i2ecAddress : U8
  addressHigh : U8
  addressLow : U8
  ram : Ram

namespace EcPorts

def selected (ports : EcPorts) : U16 :=
  ports.addressHigh ++ ports.addressLow

/-- A write to the data register of the I2EC interface. -/
def writeI2ec (value : U8) (ports : EcPorts) : EcPorts :=
  if ports.i2ecAddress = i2ecAddrHigh then
    { ports with addressHigh := value }
  else if ports.i2ecAddress = i2ecAddrLow then
    { ports with addressLow := value }
  else if ports.i2ecAddress = i2ecAddrData then
    { ports with ram := Function.update ports.ram ports.selected value }
  else ports

/-- The EC on the two ports; `elsewhere` is what a read finds that does not
ask for a byte of the RAM. -/
def environment (elsewhere : U16 → EcPorts → U8) :
    Environment portSignature EcPorts
  | .outb value port, ports =>
      if port = ecPortAddr then
        ((), { ports with index := value })
      else if port = ecPortData ∧ ports.index = i2ecRegAddr then
        ((), { ports with i2ecAddress := value })
      else if port = ecPortData ∧ ports.index = i2ecRegData then
        ((), ports.writeI2ec value)
      else ((), ports)
  | .inb port, ports =>
      if port = ecPortData ∧ ports.index = i2ecRegData ∧
          ports.i2ecAddress = i2ecAddrData then
        (ports.ram ports.selected, ports)
      else (elsewhere port ports, ports)

section Rules

variable (elsewhere : U16 → EcPorts → U8) (ports : EcPorts)

@[simp]
theorem run_ioWrite_i2ecRegAddr (data : U8) :
    (ioWrite i2ecRegAddr data).run (environment elsewhere) ports =
      ((), { ports with index := i2ecRegAddr, i2ecAddress := data }) :=
  (rfl)

@[simp]
theorem run_ioWrite_i2ecRegData (data : U8) :
    (ioWrite i2ecRegData data).run (environment elsewhere) ports =
      ((), { ports with index := i2ecRegData }.writeI2ec data) :=
  (rfl)

theorem run_ioRead_i2ecRegData
    (atData : ports.i2ecAddress = i2ecAddrData) :
    (ioRead i2ecRegData).run (environment elsewhere) ports =
      (ports.ram ports.selected, { ports with index := i2ecRegData }) := by
  have asked :
      (ioRead i2ecRegData).run (environment elsewhere) ports =
        environment elsewhere (.inb ecPortData)
          { ports with index := i2ecRegData } :=
    rfl
  rw [asked, environment, if_pos ⟨rfl, rfl, atData⟩]
  rfl

theorem append_addrHigh_addrLow (address : U16) :
    addrHigh address ++ addrLow address = address := by
  have mask : (0xff : U16) = (BitVec.allOnes 8).setWidth 16 := rfl
  apply BitVec.eq_of_getLsbD_eq
  intro position bound
  simp only [addrHigh, addrLow, mask, BitVec.getLsbD_append,
    BitVec.getLsbD_setWidth, BitVec.getLsbD_and,
    BitVec.getLsbD_ushiftRight, BitVec.getLsbD_allOnes]
  by_cases inLow : position < 8
  · simp [inLow, bound]
  · have inHigh : position - 8 < 8 := by omega
    have position_eq : 8 + (position - 8) = position := by omega
    have bound' : position - 8 < 16 := by omega
    simp [inLow, inHigh, bound', position_eq]

/-- The writes select the byte and leave the RAM as it is. -/
theorem run_selectEcRam (address : U16) :
    (selectEcRam address).run (environment elsewhere) ports =
      ((),
        { index := i2ecRegAddr
          i2ecAddress := i2ecAddrData
          addressHigh := addrHigh address
          addressLow := addrLow address
          ram := ports.ram }) :=
  (rfl)

theorem run_readEcRamByPorts (address : U16) :
    ((readEcRamByPorts address).run (environment elsewhere) ports).1 =
        ports.ram address ∧
      ((readEcRamByPorts address).run (environment elsewhere) ports).2.ram =
        ports.ram := by
  rw [readEcRamByPorts, Program.run_bind, run_selectEcRam,
    run_ioRead_i2ecRegData elsewhere _ rfl]
  simp only [selected, append_addrHigh_addrLow, and_self]

theorem ram_writeEcRamByPorts (address : U16) (data : U8) :
    ((writeEcRamByPorts address data).run
        (environment elsewhere) ports).2.ram =
      Function.update ports.ram address data := by
  rw [writeEcRamByPorts, Program.run_bind, run_selectEcRam,
    run_ioWrite_i2ecRegData]
  simp [writeI2ec, selected, append_addrHigh_addrLow]

end Rules

/-- Plain RAM, beside which no variable is shared. -/
def ramCalls : Environment ecSignature (Unit × Ram) :=
  fun call state =>
    ((ramEc call state.2).1, ((), (ramEc call state.2).2))

theorem simulates_ramCalls :
    Program.Simulates (fun state ram => state.2 = ram) ramCalls ramEc := by
  rintro call ⟨-, ram⟩ view rfl
  exact ⟨rfl, rfl⟩

/-- The accesses of a call that is alone do what the call does on plain
RAM. -/
theorem implements_byPorts (elsewhere : U16 → EcPorts → U8) :
    Callers.Implements byPorts (environment elsewhere) ramCalls
      fun ports ram => ports.ram = ram := by
  constructor
  · intro call update made
    cases call with
    | readEcRam address => cases made
    | writeEcRam address data => cases made
  · intro call body made choice shared ports ram related
    subst related
    cases call with
    | readEcRam address =>
        cases made
        obtain ⟨found, kept⟩ := run_readEcRamByPorts elsewhere ports address
        refine ⟨ports.ram, ?_, kept⟩
        rw [found]
        rfl
    | writeEcRam address data =>
        cases made
        exact
          ⟨Function.update ports.ram address data, rfl,
            ram_writeEcRamByPorts elsewhere ports address data⟩

/-- Whatever accesses were made, with the call that is under way made to its
end the threads and the RAM are where calls in one step each lead. -/
theorem settled_eq_steps {ι α : Type} [DecidableEq ι]
    (elsewhere : U16 → EcPorts → U8) (programs : ι → Ec α)
    (ports : EcPorts) (schedule : List (ι × Unit)) :
    let reached :=
      (Callers.start programs () ports).run byPorts (environment elsewhere)
        schedule
    let threads :=
      (Threads.mk programs ports.ram).run ramEc
        ((Callers.start programs () ports).order byPorts
          (environment elsewhere) schedule)
    (∀ thread,
      (reached.callers thread).settled (environment elsewhere)
          reached.device =
        threads.programs thread) ∧
      (reached.settledDevice (environment elsewhere)).ram =
        threads.state := by
  have initially :
      Callers.Corresponds byPorts (environment elsewhere)
        (fun ports ram => ports.ram = ram) (Callers.start programs () ports)
        ⟨programs, (), ports.ram⟩ :=
    Callers.corresponds_start programs () rfl
  have corresponds :=
    Callers.corresponds_run (implements_byPorts elsewhere) schedule initially
  have simulated :=
    Threads.run_simulates simulates_ramCalls
      ((Callers.start programs () ports).order byPorts
        (environment elsewhere) schedule)
      ⟨programs, (), ports.ram⟩ ports.ram rfl
  constructor
  · intro thread
    rw [← corresponds.programs thread, simulated.1]
  · rw [corresponds.related, simulated.2]

/-- However the port accesses of the threads come between each other, a call
that is under way can be finished, and then every thread has the answers and
the EC has the RAM that calls in one step each would have left, in the order
in which they took the mutex. -/
theorem calls_atomic {ι α : Type} [DecidableEq ι]
    (elsewhere : U16 → EcPorts → U8) (programs : ι → Ec α)
    (ports : EcPorts) (schedule : List (ι × Unit)) :
    ∃ turns,
      let reached :=
        (Callers.start programs () ports).run byPorts
          (environment elsewhere) (schedule ++ turns)
      let threads :=
        (Threads.mk programs ports.ram).run ramEc
          ((Callers.start programs () ports).order byPorts
            (environment elsewhere) schedule)
      reached.holder = none ∧
        (∀ thread,
          (reached.callers thread).settled (environment elsewhere)
              reached.device =
            threads.programs thread) ∧
        reached.device.ram = threads.state := by
  obtain ⟨turns, released, samePrograms, -, sameRam⟩ :=
    Callers.exists_settled (implements_byPorts elsewhere) programs ()
      (rfl : ports.ram = ports.ram) () schedule
  have simulated :=
    Threads.run_simulates simulates_ramCalls
      ((Callers.start programs () ports).order byPorts
        (environment elsewhere) schedule)
      ⟨programs, (), ports.ram⟩ ports.ram rfl
  refine ⟨turns, released, fun thread => ?_, ?_⟩
  · rw [samePrograms thread, simulated.1]
  · rw [sameRam, simulated.2]

end EcPorts

end TuxedoDrivers.Nb05
