import DeviceSettings.Audio.Enabling
import DeviceSettings.Audio.StereoMode

/-!
# Stereo settings at startup

`SetStereoAuto` and `initializeAudioPortSettings`. The startup code reads the modes with a
parser of its own for each port; only the one for HDMI knows the Dolby Digital strings that
`SetStereoMode` writes for every port.
-/

namespace DeviceSettings.Audio

open DeviceSettings.Std
open DeviceSettings.Persistence

/-- The HAL with the auto flag of its ports. -/
structure StereoAutoHal (σ : Type) extends StereoHal σ where
  dsSetStereoAuto : σ → Int → Int → Except DsError Unit × σ

/-- The ports whose stereo settings are kept, in the order the startup code goes through. -/
def stereoPorts : List DsAudioPortType := [.hdmi, .spdif, .hdmiArc, .speaker]

/-- The property that keeps the auto flag of a port type. -/
def audioModeAutoKey : DsAudioPortType → Option String
  | .hdmi => some "HDMI0.AudioMode.AUTO"
  | .spdif => some "SPDIF0.AudioMode.AUTO"
  | .hdmiArc => some "HDMI_ARC0.AudioMode.AUTO"
  | .speaker => some "SPEAKER0.AudioMode.AUTO"
  | _ => none

/-- How `SetStereoAuto` writes the flag. -/
def autoString (autoMode : Int) : String := if autoMode ≠ 0 then "TRUE" else "FALSE"

/-- The auto flag a port starts with when no property is found; `ignoreEdidLogic` says whether
`IGNORE_EDID_LOGIC` is defined. -/
def autoFallback (ignoreEdidLogic : Bool) : DsAudioPortType → String
  | .hdmi => if ignoreEdidLogic then "TRUE" else "FALSE"
  | .speaker => "TRUE"
  | _ => "FALSE"

/-- The mode a port starts with when no property is found. -/
def modeFallback (ignoreEdidLogic : Bool) : DsAudioPortType → String
  | .hdmi => if ignoreEdidLogic then "SURROUND" else "STEREO"
  | .speaker => "SURROUND"
  | _ => "STEREO"

/-- How the startup code reads the mode of a port. -/
def startupMode (ignoreEdidLogic : Bool) (portType : DsAudioPortType) (value : String) :
    DsAudioStereoMode :=
  match portType with
  | .hdmi =>
    if value = "SURROUND" then .surround
    else if value = "PASSTHRU" then .passthru
    else if value = "DOLBYDIGITAL" then .dd
    else if value = "DOLBYDIGITALPLUS" then .ddPlus
    else if value = "STEREO" then .stereo
    else if ignoreEdidLogic then .surround
    else .stereo
  | .speaker =>
    if value = "SURROUND" then .surround
    else if value = "PASSTHRU" then .passthru
    else if value = "STEREO" then .stereo
    else .surround
  | _ =>
    if value = "SURROUND" then .surround
    else if value = "PASSTHRU" then .passthru
    else .stereo

/-- `setStereoAutoState(portType, enabled)`. -/
def StereoGlobals.setStereoAutoState (globals : StereoGlobals) (portType : DsAudioPortType)
    (enabled : Bool) : StereoGlobals :=
  match portType with
  | .hdmi => { globals with audioHdmiAuto := enabled }
  | .spdif => { globals with audioSpdifAuto := enabled }
  | .hdmiArc => { globals with audioHdmiArcAuto := enabled }
  | .speaker => { globals with audioSpeakerAuto := enabled }
  | _ => globals

/-- `getProperty(key, defValue)`; no key of the startup code is empty, so it does not throw. -/
def Plugin.readPropertyOr {σ : Type} (plugin : Plugin σ) (key fallback : String) :
    String × Plugin σ :=
  match plugin.store.getPropertyOr plugin.files key fallback with
  | (.ok value, store) => (value, { plugin with store := store })
  | (.error _, store) => (fallback, { plugin with store := store })

namespace StereoPlugin

variable {σ : Type}

/-- The persisted auto flag of a port type, where it has a property. -/
def persistStereoAuto (stereo : StereoPlugin σ) (portType : DsAudioPortType) (autoMode : Int) :
    StereoPlugin σ :=
  match audioModeAutoKey portType with
  | none => stereo
  | some key =>
    let persisted :=
      stereo.plugin.store.persistHostProperty stereo.plugin.files key (autoString autoMode)
    { stereo with plugin.store := persisted.2.1, plugin.files := persisted.2.2 }

section Startup

variable (ignoreEdidLogic : Bool)

/-- The mode the startup code finds for a port. Only HDMI asks for the default property. -/
def readStartupMode (plugin : Plugin σ) (portType : DsAudioPortType) :
    DsAudioStereoMode × Plugin σ :=
  let fallback := modeFallback ignoreEdidLogic portType
  let read : String × Plugin σ :=
    match audioModeKey portType with
    | none => (fallback, plugin)
    | some key =>
      if portType = DsAudioPortType.hdmi then plugin.readProperty key fallback
      else plugin.readPropertyOr key fallback
  (startupMode ignoreEdidLogic portType read.1, read.2)

/-- The auto flag the startup code finds for a port. -/
def readStartupAuto (plugin : Plugin σ) (portType : DsAudioPortType) : Bool × Plugin σ :=
  let fallback := autoFallback ignoreEdidLogic portType
  let read : String × Plugin σ :=
    match audioModeAutoKey portType with
    | none => (fallback, plugin)
    | some key => plugin.readProperty key fallback
  (read.1 = "TRUE", read.2)

/-- The first half of `initializeAudioPortSettings`: the globals from the store. -/
def readStartupSettings (stereo : StereoPlugin σ) : StereoPlugin σ :=
  let hdmiAudioMode := readStartupMode ignoreEdidLogic stereo.plugin .hdmi
  let hdmiAuto := readStartupAuto ignoreEdidLogic hdmiAudioMode.2 .hdmi
  let hdmiArcAuto := readStartupAuto ignoreEdidLogic hdmiAuto.2 .hdmiArc
  let spdifAuto := readStartupAuto ignoreEdidLogic hdmiArcAuto.2 .spdif
  let speakerAuto := readStartupAuto ignoreEdidLogic spdifAuto.2 .speaker
  let spdifAudioMode := readStartupMode ignoreEdidLogic speakerAuto.2 .spdif
  let hdmiArcAudioMode := readStartupMode ignoreEdidLogic spdifAudioMode.2 .hdmiArc
  let speakerAudioMode := readStartupMode ignoreEdidLogic hdmiArcAudioMode.2 .speaker
  { plugin := speakerAudioMode.2
    globals :=
      { hdmiAudioMode := hdmiAudioMode.1
        spdifAudioMode := spdifAudioMode.1
        hdmiArcAudioMode := hdmiArcAudioMode.1
        speakerAudioMode := speakerAudioMode.1
        audioHdmiAuto := hdmiAuto.1
        audioSpdifAuto := spdifAuto.1
        audioHdmiArcAuto := hdmiArcAuto.1
        audioSpeakerAuto := speakerAuto.1 } }

end Startup

variable (hal : StereoAutoHal σ)

/-- `SetStereoAuto(handle, autoMode, persist)`: the flag is persisted before the HAL is asked,
and the HAL is asked for two of the ports only. -/
def setStereoAuto (stereo : StereoPlugin σ) (handle autoMode : Int) (persist : Bool) :
    Except CoreError Unit × StereoPlugin σ :=
  if stereo.plugin.audio.isInitialized = false then (.error .general, stereo)
  else
    let portType := stereo.plugin.getAudioPortType hal.toAudioHal handle
    let stereo := if persist then stereo.persistStereoAuto portType autoMode else stereo
    if portType = .hdmiArc ∨ portType = .spdif then
      match hal.dsSetStereoAuto stereo.plugin.hal handle autoMode with
      | (.error _, state) => (.error .general, { stereo with plugin.hal := state })
      | (.ok _, state) =>
        (.ok (), { stereo with
          plugin.hal := state
          globals := stereo.globals.setStereoAutoState portType (autoMode ≠ 0) })
    else
      (.ok (), { stereo with
        globals := stereo.globals.setStereoAutoState portType (autoMode ≠ 0) })

/-- What the startup code tells the HAL about a port; the answers are only logged. -/
def applyStartupSettings (stereo : StereoPlugin σ) (portType : DsAudioPortType) :
    StereoPlugin σ :=
  match hal.dsGetAudioPort stereo.plugin.hal portType 0 with
  | .error _ => stereo
  | .ok handle =>
    let state := (hal.dsSetStereoMode stereo.plugin.hal handle
      (stereo.globals.getConfiguredStereoMode portType)).2
    let state := (hal.dsSetStereoAuto state handle
      (if stereo.globals.isStereoAutoEnabled portType then 1 else 0)).2
    { stereo with plugin.hal := state }

/-- `initializeAudioPortSettings()`. -/
def initializeAudioPortSettings (ignoreEdidLogic : Bool) (stereo : StereoPlugin σ) :
    StereoPlugin σ :=
  stereoPorts.foldl (applyStartupSettings hal) (stereo.readStartupSettings ignoreEdidLogic)

end StereoPlugin
end DeviceSettings.Audio
