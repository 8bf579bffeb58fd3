import DeviceSettings.Power.Listener

/-!
# The display state after a reboot

`ApplyPostRebootConfig` of each controller, up to the state that it passes to
`SyncDisplayPortsWithPowerState`. A television that was on and comes up in standby asks the
reboot info file, which may not be written yet.
-/

namespace DeviceSettings.Power

/-- `reboot_type_t`. -/
inductive RebootType where
  | hard
  | soft
  | unavailable
  deriving DecidableEq, Repr

/-- The files that `GetRebootType` and `DoForceDisplayOnPostReboot` look at. -/
structure RebootFiles where
  /-- `/tmp/Update_rebootInfo_invoked` is there. -/
  fileUpdatedFlag : Bool
  /-- The lines of `/opt/secure/reboot/previousreboot.info`, if it can be opened. -/
  rebootInfoFile : Option (List String)
  /-- `/opt/force_display_on_after_reboot` is there. -/
  forceDisplayFlag : Bool

def hardRebootMatchString : String := "\"reason\":\"POWER_ON_RESET\""

/-- `GetRebootType()`. -/
def RebootFiles.getRebootType (files : RebootFiles) : RebootType :=
  if files.fileUpdatedFlag = false then .unavailable
  else
    match files.rebootInfoFile with
    | none => .soft
    | some lines =>
      if ∃ line ∈ lines, hardRebootMatchString.toList <:+: line.toList then .hard else .soft

/-- The state with which `SyncDisplayPortsWithRebootReason` acts. -/
def RebootType.displayState (rebootType : RebootType) : PowerState :=
  if rebootType = .hard then .standby else .on

namespace UXController

/-- What `ApplyPostRebootConfig(targetState, lastKnownState)` passes to
`SyncDisplayPortsWithPowerState`; nothing while the reboot type is not available, which is then
left to `ScheduleRebootReasonCheck`. -/
def postRebootDisplayState (ux : UXController) (files : RebootFiles)
    (targetState lastKnownState : PowerState) : Option PowerState :=
  match ux.profile with
  | .stb => some targetState
  | .stbEurope | .tvEurope =>
    if lastKnownState = .on ∧ targetState = .standby then some .on else some targetState
  | .tv =>
    if lastKnownState = .on ∧ targetState = .standby then
      if files.forceDisplayFlag then some .on
      else
        match files.getRebootType with
        | .unavailable => none
        | rebootType => some rebootType.displayState
    else some targetState

end UXController
end DeviceSettings.Power
