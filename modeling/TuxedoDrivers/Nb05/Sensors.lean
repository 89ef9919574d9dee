import TuxedoDrivers.Hwmon
import TuxedoDrivers.Nb05.EcRam

/-!
# Sensors of the NB05 machines

`tuxedo_nb05_sensors.c`: the temperature and the speeds of the fans, read from
the EC RAM whenever they are asked for.
-/

namespace TuxedoDrivers.Nb05

open Interaction

def readCpuTemp : Ec U8 :=
  nb05ReadEcRam 0x470

def readFan1Rpm : Ec Int := do
  let rpmHigh ← nb05ReadEcRam 0x298
  -- The source reads the low byte from this register too
  let rpmLow ← nb05ReadEcRam 0x298
  return (wordOfBytes rpmHigh rpmLow).toNat

def readFan2Rpm : Ec Int := do
  let rpmHigh ← nb05ReadEcRam 0x218
  let rpmLow ← nb05ReadEcRam 0x219
  return (wordOfBytes rpmHigh rpmLow).toNat

/-- `struct driver_data_t` of the sensors. -/
structure SensorsData where
  fanCpuMax : Int
  fanCpuMin : Int
  numberFans : Int
  deriving DecidableEq, Repr

def iflx14i01 : String :=
  "TUXEDO InfinityFlex 14 Gen1"

def tuxedoNb05HwmonRead (driverData : SensorsData)
    (type : HwmonSensorType) (attr : HwmonFanAttr) (channel : Int) :
    Ec (Except Int Int) := do
  match type with
  | .temp =>
      let cpuTemp ← readCpuTemp
      return .ok (cpuTemp.toNat * 1000)
  | .fan =>
      match attr with
      | .min =>
          if channel = 0 ∨ channel = 1 then return .ok driverData.fanCpuMin
          else return .error (-eopnotsupp)
      | .max =>
          if channel = 0 ∨ channel = 1 then return .ok driverData.fanCpuMax
          else return .error (-eopnotsupp)
      | .input =>
          if channel = 0 then
            let rpm ← readFan1Rpm
            return .ok rpm
          else if channel = 1 then
            let rpm ← readFan2Rpm
            return .ok rpm
          else return .error (-eopnotsupp)
      | .other => return .error (-eopnotsupp)
  | .other => return .error (-eopnotsupp)

end TuxedoDrivers.Nb05
