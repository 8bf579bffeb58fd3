import DeviceSettings.Audio.Activation
import DeviceSettings.Audio.ActivationSettings
import DeviceSettings.Audio.AssociatedAudio
import DeviceSettings.Audio.DelayInEffect
import DeviceSettings.Audio.LoudnessEquivalence
import DeviceSettings.Audio.Ms12Interference
import DeviceSettings.Audio.Ms12Override
import DeviceSettings.Audio.Ms12Restart
import DeviceSettings.Audio.MuteIndependence
import DeviceSettings.Audio.PortSettingsRestart
import DeviceSettings.Audio.PortValues
import DeviceSettings.Audio.ProfileMemory
import DeviceSettings.Audio.Reactivation
import DeviceSettings.Audio.RestoredLevel
import DeviceSettings.Audio.Shutdown
import DeviceSettings.Audio.StereoRestart
import DeviceSettings.Audio.WakeUp
import DeviceSettings.Backend.HalFactoryUtility
import DeviceSettings.Backend.ServiceManagerCheck
import DeviceSettings.CompositeIn.Selection
import DeviceSettings.Configs.HalConfig
import DeviceSettings.Configs.SharedConfigs
import DeviceSettings.Controller.AnalogFallback
import DeviceSettings.Controller.Authentication
import DeviceSettings.Controller.EasMode
import DeviceSettings.Controller.FallbackOrder
import DeviceSettings.Controller.HotplugTimer
import DeviceSettings.Controller.Mailbox
import DeviceSettings.Controller.ResolutionNames
import DeviceSettings.Controller.SentResolution
import DeviceSettings.Controller.TuneReady
import DeviceSettings.Controller.UserResolution
import DeviceSettings.Display.EdidCache
import DeviceSettings.Display.EdidFilter
import DeviceSettings.Display.EdidRace
import DeviceSettings.FailedSetters
import DeviceSettings.FrontPanel.HalUsage
import DeviceSettings.FrontPanel.Panel
import DeviceSettings.FrontPanel.SavedBrightness
import DeviceSettings.FrontPanel.StoredColor
import DeviceSettings.HdmiIn.EdidRestart
import DeviceSettings.HdmiOutput.ChangeAnnouncements
import DeviceSettings.HdmiOutput.ForceDisable4K
import DeviceSettings.HdmiOutput.Handles
import DeviceSettings.Persistence.Crash
import DeviceSettings.Persistence.Durable
import DeviceSettings.Persistence.Processes
import DeviceSettings.Persistence.TwoWriters
import DeviceSettings.Plugin.Lifecycle
import DeviceSettings.Power.AudioHistory
import DeviceSettings.Power.BootSync
import DeviceSettings.Power.BootloaderPattern
import DeviceSettings.Power.EventOrder
import DeviceSettings.Power.PowerLed
import DeviceSettings.Power.RebootReason
import DeviceSettings.Power.StandbySettings
import DeviceSettings.Power.StandbyState
import DeviceSettings.Power.VideoHistory
import DeviceSettings.Std.Assignment
import DeviceSettings.Std.Bisimulation
import DeviceSettings.Std.Component
import DeviceSettings.Std.RefCount
import DeviceSettings.Std.Usage
import DeviceSettings.VideoDevice.Restart
import DeviceSettings.VideoPort.ColorDepthReset
import DeviceSettings.VideoPort.Compatibility
import DeviceSettings.VideoPort.ForceDisable4K
import DeviceSettings.VideoPort.HdcpStatus
import DeviceSettings.VideoPort.HdmiStatus
import DeviceSettings.VideoPort.NotificationReferences
import DeviceSettings.VideoPort.Notifications
import DeviceSettings.VideoPort.ReadBack
import DeviceSettings.VideoPort.ResolutionEvents
