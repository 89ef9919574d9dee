import TuxedoDrivers.Ite.Ite8291Probe

/-!
# The lightbars of `ite_8291_lb`

The driver registers one LED and writes its colour.  The reports differ with
the product.
-/

namespace TuxedoDrivers.Ite.Ite8291Lb

open Interaction

/-- What the driver looks at of the machine and the device.  It is the only
one that matches the product family. -/
structure LightbarDevice where
  dmi : Dmi
  productFamily : Option String
  product : U32

abbrev enosys : Int := 38

/-! ## Transmission -/

def colorScaling (device : LightbarDevice) (colour : Colour) : Colour :=
  if dmiMatch device.dmi .productSku "STEPOL1XA04" ∧
      device.product = 0x6010 then
    colour.scale 255 100 100
  else if dmiMatch device.dmi .productSku "STELLARIS1XI05" ∧
      device.product = 0x6010 then
    colour.scale 255 100 100
  else if dmiMatch device.dmi .productSku "STELLARIS17I06" ∧
      device.product = 0x6010 then
    colour.scale 255 100 100
  else if dmiMatch device.dmi .boardName "XxAF5xxx" ∨
      dmiMatch device.dmi .boardName "XxAF5xxx_mLED" then
    colour.scale 255 200 255
  else
    colour

/-- The two reports of a colour, which differ in these bytes. -/
def writeMonoReports (scaled : Colour) (zone command last brightness : U8) :
    Hid Int := do
  let _ ← ite8291WriteControl
    #v[0x14, zone, 0x01, scaled.red, scaled.green, scaled.blue, 0x00, 0x00]
  let _ ← ite8291WriteControl
    #v[0x08, command, 0x01, 0x01, brightness, last, 0x00, 0x00]
  return 0

def ite8291WriteLightbarMono (device : LightbarDevice) (colour : Colour)
    (brightness : U8) : Hid Int :=
  if brightness > 0x64 then pure (-einval)
  else
    let scaled := colorScaling device colour
    if device.product = 0x6010 then
      writeMonoReports scaled 0x00 0x02 0x08 brightness
    else if device.product = 0x7000 then
      writeMonoReports scaled 0x01 0x21 0x01 brightness
    else if device.product = 0x7001 then
      writeMonoReports scaled 0x00 0x22 0x01 brightness
    else
      pure (-enosys)

/-- The report that switches a product on. -/
def onReport (target : U8) : Vector U8 8 :=
  #v[0x1a, target, 0x01, 0x04, 0x00, 0x00, 0x00, 0x01]

def ite8291WriteOn (device : LightbarDevice) : Hid Int :=
  if device.product = 0x6010 then do
    let _ ← ite8291WriteControl (onReport 0x00)
    return 0
  else if device.product = 0x7000 then do
    let _ ← ite8291WriteControl (onReport 0x01)
    return 0
  else if device.product = 0x7001 then do
    let _ ← ite8291WriteControl (onReport 0x02)
    return 0
  else
    pure (-enosys)

def ite8291WriteState (device : LightbarDevice) (led : McLed) : Hid Int :=
  ite8291WriteLightbarMono device led.intensities.colour
    (led.brightness.setWidth 8)

/-! ## The probe -/

/-- The LED as `ite8291_init_leds` sets it up. -/
def lightbarLed : McLed :=
  { brightness := 0x00
    maxBrightness := 0x64
    intensities := ⟨0xff, 0xff, 0xff⟩
    channel := 0 }

def ite8291InitLeds : Probe Int := do
  let retval ← ask (.devmLedRegister .lightbar)
  if retval ≠ 0 then
    return retval
  else
    return 0

def colorListLength (device : LightbarDevice) : Nat :=
  if device.product = 0x6010 ∨ device.product = 0x7000 then 7 else 0

def ite8291DriverDataSetup (device : LightbarDevice) : Probe Int := do
  if colorListLength device ≠ 0 then
    let colorList ← ask (.devmKzalloc .colorList)
    if colorList = false then
      return -enomem
    else
      return 0
  else
    return 0

/-- The probe after the setup of the driver data. -/
def initLightbar (device : LightbarDevice) : Probe Int := do
  let result ← ite8291InitLeds
  if result ≠ 0 then
    return result
  else
    let _ ← transferring (ite8291WriteOn device)
    let _ ← transferring (ite8291WriteState device lightbarLed)
    return result

/-- The probe after the allocation of the driver data. -/
def addLightbar (device : LightbarDevice) : Probe Int := do
  let result ← ite8291DriverDataSetup device
  if result ≠ 0 then
    return result
  else
    initLightbar device

def excludeDevice (device : LightbarDevice) : Bool :=
  dmiMatch device.dmi .productSku "STELLARIS1XI05" &&
    !decide (device.productFamily = some "STELLARIS17I05") &&
    decide (device.product = 0x6010)

def driverProbeCallb (device : LightbarDevice) : Probe Int :=
  if excludeDevice device = true then pure (-enodev)
  else startedProbe (addLightbar device)

end TuxedoDrivers.Ite.Ite8291Lb
