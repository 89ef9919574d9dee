import TuxedoDrivers.Ite.Ite8291Probe

/-!
# The lightbar of `ite_8297`

Three LEDs of one component each, registered without `devm`.
-/

namespace TuxedoDrivers.Ite.Ite8297

open Interaction

abbrev hidDataSize : Nat := 64

def ite8297WriteColor (colour : Colour) : Hid Int :=
  let written : List U8 :=
    [0xcc, 0xb0, 0x01, 0x01, colour.red, colour.green, colour.blue]
  hidHwRawRequest 0xcc
    (written ++ List.replicate (hidDataSize - written.length) 0x00)

def ite8297WriteState (currentColor : Colour) : Hid Int :=
  ite8297WriteColor currentColor

/-- The colour of the three LEDs with the default brightness. -/
def defaultColor : Colour :=
  ⟨0x00, 0x00, 0x00⟩

/-- The probe after the allocation.  The registrations are not checked. -/
def addLeds : Probe Int := do
  let _ ← ask (.ledClassdevRegister .red)
  let _ ← ask (.ledClassdevRegister .green)
  let _ ← ask (.ledClassdevRegister .blue)
  let result ← transferring (ite8297WriteState defaultColor)
  if result < 0 then
    return result
  else
    return 0

def driverProbeCallb : Probe Int :=
  startedProbe addLeds

end TuxedoDrivers.Ite.Ite8297
