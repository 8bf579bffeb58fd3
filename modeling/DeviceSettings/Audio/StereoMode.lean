import DeviceSettings.Audio.Ports

/-!
# Stereo modes

`GetStereoMode` and `SetStereoMode` of `dAudioImpl`. A port in auto mode and the speaker
answer with what the HAL has set; the others with the configured mode, which every successful
set overwrites, with or without `persist`.
-/

namespace DeviceSettings.Audio

open DeviceSettings.Std
open DeviceSettings.Persistence

/-- `AudioStereoMode` of the plugin interface; `other` stands for the values beyond it. -/
inductive AudioStereoMode where
  | unknown
  | mono
  | stereo
  | surround
  | passthrough
  | dd
  | ddPlus
  | other
  deriving DecidableEq, Repr

/-- `dsAudioStereoMode_t`. -/
inductive DsAudioStereoMode where
  | unknown
  | mono
  | stereo
  | surround
  | passthru
  | dd
  | ddPlus
  | other
  deriving DecidableEq, Repr

/-- `convertToDS(mode)`. -/
def convertModeToDS : AudioStereoMode → DsAudioStereoMode
  | .unknown => .unknown
  | .mono => .mono
  | .stereo => .stereo
  | .surround => .surround
  | .passthrough => .passthru
  | .dd => .dd
  | .ddPlus => .ddPlus
  | .other => .unknown

/-- `convertFromDS(dsMode)`. -/
def convertModeFromDS : DsAudioStereoMode → AudioStereoMode
  | .unknown => .unknown
  | .mono => .mono
  | .stereo => .stereo
  | .surround => .surround
  | .passthru => .passthrough
  | .dd => .dd
  | .ddPlus => .ddPlus
  | .other => .unknown

/-- The HAL with its stereo modes. -/
structure StereoHal (σ : Type) extends AudioHal σ where
  dsGetStereoMode : σ → Int → Except DsError DsAudioStereoMode
  dsSetStereoMode : σ → Int → DsAudioStereoMode → Except DsError Unit × σ

/-- `g_HdmiAudioMode`, `g_AudioHdmiAuto` and their siblings. -/
structure StereoGlobals where
  hdmiAudioMode : DsAudioStereoMode
  spdifAudioMode : DsAudioStereoMode
  hdmiArcAudioMode : DsAudioStereoMode
  speakerAudioMode : DsAudioStereoMode
  audioHdmiAuto : Bool
  audioSpdifAuto : Bool
  audioHdmiArcAuto : Bool
  audioSpeakerAuto : Bool

namespace StereoGlobals

/-- `getConfiguredStereoMode(portType)`. -/
def getConfiguredStereoMode (globals : StereoGlobals) : DsAudioPortType → DsAudioStereoMode
  | .hdmi => globals.hdmiAudioMode
  | .spdif => globals.spdifAudioMode
  | .hdmiArc => globals.hdmiArcAudioMode
  | .speaker => globals.speakerAudioMode
  | _ => .stereo

/-- `isStereoAutoEnabled(portType)`. -/
def isStereoAutoEnabled (globals : StereoGlobals) : DsAudioPortType → Bool
  | .hdmi => globals.audioHdmiAuto
  | .spdif => globals.audioSpdifAuto
  | .hdmiArc => globals.audioHdmiArcAuto
  | .speaker => globals.audioSpeakerAuto
  | _ => false

/-- `setConfiguredStereoMode(portType, mode)`. -/
def setConfiguredStereoMode (globals : StereoGlobals) (portType : DsAudioPortType)
    (mode : DsAudioStereoMode) : StereoGlobals :=
  match portType with
  | .hdmi => { globals with hdmiAudioMode := mode }
  | .spdif => { globals with spdifAudioMode := mode }
  | .hdmiArc => { globals with hdmiArcAudioMode := mode }
  | .speaker => { globals with speakerAudioMode := mode }
  | _ => globals

@[simp] theorem isStereoAutoEnabled_setConfiguredStereoMode (globals : StereoGlobals)
    (portType other : DsAudioPortType) (mode : DsAudioStereoMode) :
    (globals.setConfiguredStereoMode portType mode).isStereoAutoEnabled other =
      globals.isStereoAutoEnabled other := by
  cases portType <;> rfl

/-- The port types that have a configured mode. -/
theorem getConfiguredStereoMode_setConfiguredStereoMode (globals : StereoGlobals)
    {portType : DsAudioPortType} (mode : DsAudioStereoMode)
    (listed : portType ∈ [DsAudioPortType.hdmi, .spdif, .hdmiArc, .speaker]) :
    (globals.setConfiguredStereoMode portType mode).getConfiguredStereoMode portType = mode := by
  cases portType <;> first | rfl | simp at listed

theorem getConfiguredStereoMode_setConfiguredStereoMode_of_ne (globals : StereoGlobals)
    {portType other : DsAudioPortType} (different : other ≠ portType) (mode : DsAudioStereoMode) :
    (globals.setConfiguredStereoMode portType mode).getConfiguredStereoMode other =
      globals.getConfiguredStereoMode other := by
  cases portType <;> cases other <;> first | rfl | exact absurd rfl different

end StereoGlobals

/-- The plugin with its stereo modes. -/
structure StereoPlugin (σ : Type) where
  plugin : Plugin σ
  globals : StereoGlobals

/-- The property that keeps the mode of a port type. -/
def audioModeKey : DsAudioPortType → Option String
  | .hdmi => some "HDMI0.AudioMode"
  | .spdif => some "SPDIF0.AudioMode"
  | .hdmiArc => some "HDMI_ARC0.AudioMode"
  | .speaker => some "SPEAKER0.AudioMode"
  | _ => none

/-- How `SetStereoMode` writes a mode. -/
def modeString : AudioStereoMode → String
  | .stereo => "STEREO"
  | .surround => "SURROUND"
  | .passthrough => "PASSTHRU"
  | .dd => "DOLBYDIGITAL"
  | .ddPlus => "DOLBYDIGITALPLUS"
  | _ => "STEREO"

/-- How `getPersistedStereoMode` reads it back. -/
def parseMode (value : String) : DsAudioStereoMode :=
  if value = "SURROUND" then .surround
  else if value = "PASSTHRU" then .passthru
  else if value = "DOLBYDIGITAL" then .dd
  else if value = "DOLBYDIGITALPLUS" then .ddPlus
  else .stereo

namespace StereoPlugin

variable {σ : Type}

/-- `getPersistedStereoMode(portType, mode)`; `none` where it returns false. -/
def getPersistedStereoMode (stereo : StereoPlugin σ) (portType : DsAudioPortType) :
    Option DsAudioStereoMode × StereoPlugin σ :=
  match audioModeKey portType with
  | none => (none, stereo)
  | some key =>
    match stereo.plugin.store.getProperty stereo.plugin.files key with
    | (.ok value, store) => (some (parseMode value), { stereo with plugin.store := store })
    | (.error _, store) =>
      match store.getDefaultProperty stereo.plugin.files key with
      | (.ok value, store) => (some (parseMode value), { stereo with plugin.store := store })
      | (.error _, store) => (none, { stereo with plugin.store := store })

/-- The persisted mode of a port type, where it has a property. -/
def persistStereoMode (stereo : StereoPlugin σ) (portType : DsAudioPortType)
    (mode : AudioStereoMode) : StereoPlugin σ :=
  match audioModeKey portType with
  | none => stereo
  | some key =>
    let persisted :=
      stereo.plugin.store.persistHostProperty stereo.plugin.files key (modeString mode)
    { stereo with plugin.store := persisted.2.1, plugin.files := persisted.2.2 }

variable (hal : StereoHal σ)

/-- `GetStereoMode(handle, mode, persist)`. -/
def getStereoMode (stereo : StereoPlugin σ) (handle : Int) (persist : Bool) :
    Except CoreError AudioStereoMode × StereoPlugin σ :=
  if stereo.plugin.audio.isInitialized = false then (.error .general, stereo)
  else
    let portType := stereo.plugin.getAudioPortType hal.toAudioHal handle
    if persist then
      match stereo.getPersistedStereoMode portType with
      | (none, stereo) => (.error .general, stereo)
      | (some dsMode, stereo) => (.ok (convertModeFromDS dsMode), stereo)
    else if stereo.globals.isStereoAutoEnabled portType || portType = .speaker then
      match hal.dsGetStereoMode stereo.plugin.hal handle with
      | .ok dsMode => (.ok (convertModeFromDS dsMode), stereo)
      | .error _ => (.error .general, stereo)
    else (.ok (convertModeFromDS (stereo.globals.getConfiguredStereoMode portType)), stereo)

/-- `SetStereoMode(handle, mode, persist)`. -/
def setStereoMode (stereo : StereoPlugin σ) (handle : Int) (mode : AudioStereoMode)
    (persist : Bool) : Except CoreError Unit × StereoPlugin σ :=
  if stereo.plugin.audio.isInitialized = false then (.error .general, stereo)
  else
    let dsPortType := stereo.plugin.getAudioPortType hal.toAudioHal handle
    if dsPortType = .max then (.error .badRequest, stereo)
    else
      match hal.dsSetStereoMode stereo.plugin.hal handle (convertModeToDS mode) with
      | (.error _, state) => (.error .general, { stereo with plugin.hal := state })
      | (.ok _, state) =>
        let stereo := { stereo with plugin.hal := state }
        let stereo := if persist then stereo.persistStereoMode dsPortType mode else stereo
        (.ok (), { stereo with
          globals := stereo.globals.setConfiguredStereoMode dsPortType (convertModeToDS mode) })

/-- `GetStereoAuto(handle, autoMode)`. -/
def getStereoAuto (stereo : StereoPlugin σ) (handle : Int) : Except CoreError Int :=
  if stereo.plugin.audio.isInitialized = false then .error .general
  else
    let portType := stereo.plugin.getAudioPortType hal.toAudioHal handle
    .ok (if stereo.globals.isStereoAutoEnabled portType then 1 else 0)

end StereoPlugin
end DeviceSettings.Audio
