import TuxedoDrivers.Clevo.CallContract
import TuxedoDrivers.Clevo.ChargeControl
import TuxedoDrivers.Clevo.Events
import TuxedoDrivers.Clevo.Flexicharger
import TuxedoDrivers.Clevo.FlexichargerProtocols
import TuxedoDrivers.Clevo.Leds
import TuxedoDrivers.Clevo.Methods
import TuxedoDrivers.Clevo.Settings
import TuxedoDrivers.Hwmon
import TuxedoDrivers.Interaction.ControlPoints
import TuxedoDrivers.Interaction.Expansion
import TuxedoDrivers.Interaction.Interleaving
import TuxedoDrivers.Interaction.KeptSetting
import TuxedoDrivers.Interaction.Points
import TuxedoDrivers.Interaction.Program
import TuxedoDrivers.Interaction.Requests
import TuxedoDrivers.Interaction.Results
import TuxedoDrivers.Interaction.Runs
import TuxedoDrivers.Interaction.Tally
import TuxedoDrivers.Interaction.Writes
import TuxedoDrivers.Io.DeviceData
import TuxedoDrivers.Io.Ioctl
import TuxedoDrivers.Io.IoctlAccesses
import TuxedoDrivers.Io.IoctlDriver
import TuxedoDrivers.Io.IoctlErrors
import TuxedoDrivers.Io.IoctlRuns
import TuxedoDrivers.Io.Tdp
import TuxedoDrivers.Io.TdpOutcomes
import TuxedoDrivers.Ite.FailedProbes
import TuxedoDrivers.Ite.FrameAcceptance
import TuxedoDrivers.Ite.FrameBuffer
import TuxedoDrivers.Ite.Hid
import TuxedoDrivers.Ite.Ite8291
import TuxedoDrivers.Ite.Ite8291Lb
import TuxedoDrivers.Ite.Ite8291Probe
import TuxedoDrivers.Ite.Ite8297
import TuxedoDrivers.Ite.Ite829x
import TuxedoDrivers.Ite.LedRegistration
import TuxedoDrivers.Ite.ModeKey
import TuxedoDrivers.Ite.ProbeRequests
import TuxedoDrivers.Ite.Resume
import TuxedoDrivers.Kernel
import TuxedoDrivers.Keyboard.Core
import TuxedoDrivers.Keyboard.DriverRemoval
import TuxedoDrivers.Keyboard.EventSafety
import TuxedoDrivers.Keyboard.InputRuns
import TuxedoDrivers.Keyboard.InputTracking
import TuxedoDrivers.Keyboard.InterfaceSelection
import TuxedoDrivers.Keyboard.Interfaces
import TuxedoDrivers.Keyboard.KernelObjects
import TuxedoDrivers.Keyboard.Lifecycle
import TuxedoDrivers.Nb04.PowerProfiles
import TuxedoDrivers.Nb04.Sensors
import TuxedoDrivers.Nb04.StatusMethods
import TuxedoDrivers.Nb04.WmiMethods
import TuxedoDrivers.Nb05.EcRam
import TuxedoDrivers.Nb05.FanControl
import TuxedoDrivers.Nb05.PowerProfiles
import TuxedoDrivers.Nb05.ProfileConvergence
import TuxedoDrivers.Nb05.ProfileThreads
import TuxedoDrivers.Nb05.PwmReadBack
import TuxedoDrivers.Nb05.RpmVersions
import TuxedoDrivers.Nb05.Sensors
import TuxedoDrivers.SensorWords
import TuxedoDrivers.Sequences.Matcher
import TuxedoDrivers.Stk8321.Accelerometer
import TuxedoDrivers.Stk8321.MountMatrix
import TuxedoDrivers.Stk8321.SamplingFrequency
import TuxedoDrivers.Sysfs
import TuxedoDrivers.Tuxi.Acpi
import TuxedoDrivers.Tuxi.Errors
import TuxedoDrivers.Tuxi.FanControl
import TuxedoDrivers.Tuxi.PwmRoundTrip
import TuxedoDrivers.Uniwill.BackendRefinement
import TuxedoDrivers.Uniwill.Backlight
import TuxedoDrivers.Uniwill.BacklightEnable
import TuxedoDrivers.Uniwill.BacklightRestore
import TuxedoDrivers.Uniwill.BatteryReadings
import TuxedoDrivers.Uniwill.BlackColor
import TuxedoDrivers.Uniwill.ChargingRuns
import TuxedoDrivers.Uniwill.ChargingSettings
import TuxedoDrivers.Uniwill.CountedEc
import TuxedoDrivers.Uniwill.DeviceFeatures
import TuxedoDrivers.Uniwill.DriverState
import TuxedoDrivers.Uniwill.EcAccess
import TuxedoDrivers.Uniwill.FanControl
import TuxedoDrivers.Uniwill.FanLifecycle
import TuxedoDrivers.Uniwill.FanOutcomes
import TuxedoDrivers.Uniwill.FanRequests
import TuxedoDrivers.Uniwill.FanRuns
import TuxedoDrivers.Uniwill.FanTables
import TuxedoDrivers.Uniwill.FeatureSnapshots
import TuxedoDrivers.Uniwill.Frames
import TuxedoDrivers.Uniwill.PlatformDriver
import TuxedoDrivers.Uniwill.PowerStates
import TuxedoDrivers.Uniwill.ReadModifyWrite
import TuxedoDrivers.Uniwill.RegisterUpdates
import TuxedoDrivers.Uniwill.RomId
import TuxedoDrivers.Uniwill.SharedRegisters
import TuxedoDrivers.Uniwill.SuspendedFans
import TuxedoDrivers.Uniwill.TouchpadFilter
import TuxedoDrivers.Uniwill.WmiBackend
import TuxedoDrivers.Wmi
import TuxedoDrivers.WmiBinding
import TuxedoDrivers.Clevo.ClosestThreshold
import TuxedoDrivers.Io.FanSpeeds
import TuxedoDrivers.Uniwill.ChargingTexts
import TuxedoDrivers.Clevo.KeyboardModes
import TuxedoDrivers.Uniwill.FullFanMode
import TuxedoDrivers.Clevo.BatteryHook
import TuxedoDrivers.Uniwill.RegisteredPlatform
import TuxedoDrivers.Uniwill.ProbeCycles
import TuxedoDrivers.Interaction.LockedCalls
import TuxedoDrivers.Nb05.EcPorts
import TuxedoDrivers.Uniwill.EcLock
import TuxedoDrivers.Input.KeyReports
import TuxedoDrivers.Keyboard.KeyEvents
import TuxedoDrivers.WmiKeyboards
import TuxedoDrivers.Clevo.CallViews
import TuxedoDrivers.Clevo.LedRuns
import TuxedoDrivers.Interaction.KnownSetting
import TuxedoDrivers.Uniwill.EcAttributes
import TuxedoDrivers.Uniwill.SettingRuns
import TuxedoDrivers.Clevo.FnLockRuns
import TuxedoDrivers.Uniwill.Lightbar
import TuxedoDrivers.Interaction.RelyGuarantee
import TuxedoDrivers.Uniwill.RamInvariants
import TuxedoDrivers.Uniwill.NvidiaPowerCtrl
import TuxedoDrivers.Interaction.Monitors
import TuxedoDrivers.Nb04.Keyboard
import TuxedoDrivers.Ite.LightDrivers
import TuxedoDrivers.Ite.LightRuns
import TuxedoDrivers.Uniwill.HiddenBiosOptions
import TuxedoDrivers.Interaction.Isolation
import TuxedoDrivers.Nb05.FanAttributes
import TuxedoDrivers.Nb05.EcClients
import TuxedoDrivers.Uniwill.FanThreads
import TuxedoDrivers.Interaction.Mirror
import TuxedoDrivers.Nb05.KbdBacklight
import TuxedoDrivers.Clevo.WhiteKeyboard
import TuxedoDrivers.Io.IoctlThreads
