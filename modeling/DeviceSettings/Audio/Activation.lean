import DeviceSettings.Audio.Ms12Profile
import DeviceSettings.Audio.Ms12Startup
import DeviceSettings.Audio.PortSettings
import DeviceSettings.Audio.StereoStartup

/-!
# Activating the audio component

The constructor of `dAudioImpl` runs `InitialiseHAL`, its destructor `dsAudioPortTerm`. Most
sections of `audioConfigInit` keep the HAL function they have resolved in a static, and do their
work only where they resolve it: the statics outlive the object.
-/

namespace DeviceSettings.Audio

open DeviceSettings.Std
open DeviceSettings.Persistence

/-- The further symbols that `audioConfigInit` resolves. -/
inductive ConfigSymbol where
  | dsEnableLEConfig
  | dsSetPrimaryLanguage
  | dsSetSecondaryLanguage
  | dsSetFaderControl
  | dsSetAssociatedAudioMixing
  | dsSetMS12AudioProfile
  deriving DecidableEq, Repr

/-- The function pointers that `audioConfigInit` keeps in statics. -/
inductive StaticFunc where
  | dsSetAudioLevelFunc
  | dsSetAudioDelayFunc
  | dsSetPrimaryLanguageFunc
  | dsSetSecondaryLanguageFunc
  | dsSetFaderControlFunc
  | dsSetAssociatedAudioMixingFunc
  | dsSetMS12AudioProfileFunc
  deriving DecidableEq, Repr

/-- The HAL as `InitialiseHAL` uses it; the registration of callbacks is left out. -/
structure ActivationHal (σ : Type) extends PortSettingsHal σ, StereoAutoHal σ where
  dsAudioPortInit : σ → Except DsError Unit × σ
  dsAudioPortTerm : σ → Except DsError Unit × σ
  resolvesConfig : ConfigSymbol → Bool
  dsEnableLEConfig : σ → Int → Bool → Except DsError Unit × σ
  dsSetPrimaryLanguage : σ → Int → String → Except DsError Unit × σ
  dsSetSecondaryLanguage : σ → Int → String → Except DsError Unit × σ
  dsSetFaderControl : σ → Int → Int → Except DsError Unit × σ
  dsSetAssociatedAudioMixing : σ → Int → Bool → Except DsError Unit × σ
  resolvesMs12 : Ms12Setting → Bool
  ms12Call : σ → Int → DsMs12Call → Except DsError Unit × σ
  dsSetMS12AudioProfile : σ → Int → String → Except DsError Unit × σ

namespace ActivationHal

variable {σ : Type} (hal : ActivationHal σ)

def toMs12ProfileHal : Ms12ProfileHal σ where
  toAudioHal := hal.toAudioHal
  resolves := hal.resolvesMs12
  call := hal.ms12Call
  dsSetMS12AudioProfile := hal.dsSetMS12AudioProfile

/-- `resolve` finds the function. -/
def resolved : StaticFunc → Bool
  | .dsSetAudioLevelFunc => hal.resolves .dsSetAudioLevel
  | .dsSetAudioDelayFunc => hal.resolves .dsSetAudioDelay
  | .dsSetPrimaryLanguageFunc => hal.resolvesConfig .dsSetPrimaryLanguage
  | .dsSetSecondaryLanguageFunc => hal.resolvesConfig .dsSetSecondaryLanguage
  | .dsSetFaderControlFunc => hal.resolvesConfig .dsSetFaderControl
  | .dsSetAssociatedAudioMixingFunc => hal.resolvesConfig .dsSetAssociatedAudioMixing
  | .dsSetMS12AudioProfileFunc => hal.resolvesConfig .dsSetMS12AudioProfile

end ActivationHal

/-- The build switches of the startup code. -/
structure AudioBuild where
  ignoreEdidLogic : Bool
  leDefaultDisabled : Bool
  deriving DecidableEq, Repr

/-! ### MS12 settings of a profile -/

namespace Plugin

variable {σ : Type} (hal : Ms12Hal σ)

/-- `initializeMS12Settings()`. -/
def initializeMS12Settings (plugin : Plugin σ) : Plugin σ :=
  if hal.resolves .audioCompression then
    plugin.initializeOnPorts hal (.dsSetAudioCompression 0)
  else plugin

/-- The setting is read at startup although a profile is active. -/
def profileOverride (plugin : Plugin σ) (name : String) : Bool × Plugin σ :=
  match plugin.store.getDefaultProperty plugin.files
      ("audio." ++ name ++ ".ms12ProfileOverride") with
  | (.ok value, store) => (value = "TRUE", { plugin with store := store })
  | (.error _, store) => (false, { plugin with store := store })

/-- What is done with a stored property; one that is missing is left to the profile. -/
def withStored (plugin : Plugin σ) (key : String) (tell : String → Plugin σ → Plugin σ) :
    Plugin σ :=
  match plugin.store.getProperty plugin.files key with
  | (.ok value, store) => tell value { plugin with store := store }
  | (.error _, store) => { plugin with store := store }

/-- One override of `initializeMS12ProfileOverrides`. -/
def initializeOverride (name : String) (setting : Ms12Setting)
    (tell : Plugin σ → Plugin σ) (plugin : Plugin σ) : Plugin σ :=
  let profileOverride := plugin.profileOverride name
  if profileOverride.1 && hal.resolves setting then tell profileOverride.2
  else profileOverride.2

/-- An override with one property. -/
def initializeSingle (name : String) (setting : Ms12Setting) (key : String)
    (call : String → DsMs12Call) : Plugin σ → Plugin σ :=
  initializeOverride hal name setting fun plugin =>
    plugin.withStored key fun value plugin => plugin.initializeOnPorts hal (call value)

/-- An override with two properties of the current profile. -/
def initializePair (name : String) (setting : Ms12Setting) (first second : String)
    (call : Int → Int → DsMs12Call) : Plugin σ → Plugin σ :=
  initializeOverride hal name setting fun plugin =>
    let left := plugin.getCurrentProfileProperty first
    let right := left.2.getCurrentProfileProperty second
    right.2.withStored left.1 fun mode plugin =>
      plugin.withStored right.1 fun level plugin =>
        plugin.initializeOnPorts hal (call (atoi mode) (atoi level))

/-- The dialog enhancer has one property, of the current profile. -/
def initializeDialogEnhancer : Plugin σ → Plugin σ :=
  initializeOverride hal "DialogEnhancer" .dialogEnhancement fun plugin =>
    let currentProfile := plugin.getCurrentProfileProperty "EnhancerLevel"
    currentProfile.2.withStored currentProfile.1 fun value plugin =>
      plugin.initializeOnPorts hal (.dsSetDialogEnhancement (atoi value))

/-- The overrides in their order. -/
def profileOverrides : List (Plugin σ → Plugin σ) :=
  [initializeSingle hal "Compression" .audioCompression "audio.Compression" fun value =>
      .dsSetAudioCompression (atoi value),
    initializeDialogEnhancer hal,
    initializeSingle hal "DolbyVolumeMode" .dolbyVolumeMode "audio.DolbyVolumeMode" fun value =>
      .dsSetDolbyVolumeMode (value = "TRUE"),
    initializeSingle hal "IntelligentEQ" .intelligentEqualizerMode "audio.IntelligentEQ"
      fun value => .dsSetIntelligentEqualizerMode (atoi value),
    initializePair hal "VolumeLeveller" .volumeLeveller "VolumeLeveller.mode"
      "VolumeLeveller.level" .dsSetVolumeLeveller,
    initializeSingle hal "BassBoost" .bassEnhancer "audio.BassBoost" fun value =>
      .dsSetBassEnhancer (atoi value),
    initializeSingle hal "SurroundDecoder" .surroundDecoder "audio.SurroundDecoderEnabled"
      fun value => .dsEnableSurroundDecoder (value = "TRUE"),
    initializeSingle hal "DRCMode" .drcMode "audio.DRCMode" fun value =>
      .dsSetDRCMode (if value = "RF" then 1 else 0),
    initializePair hal "SurroundVirtualizer" .surroundVirtualizer "SurroundVirtualizer.mode"
      "SurroundVirtualizer.boost" .dsSetSurroundVirtualizer,
    initializeSingle hal "MISteering" .miSteering "audio.MISteering" fun value =>
      .dsSetMISteering (value = "Enabled"),
    initializeSingle hal "GraphicEQ" .graphicEqualizerMode "audio.GraphicEQ" fun value =>
      .dsSetGraphicEqualizerMode (atoi value)]

/-- `initializeMS12ProfileOverrides()`. -/
def initializeMS12ProfileOverrides (plugin : Plugin σ) : Plugin σ :=
  (profileOverrides hal).foldl (fun plugin override => override plugin) plugin

/-- The LE state at startup; a default is persisted at once. -/
def readLEEnable (leDefaultDisabled : Bool) (plugin : Plugin σ) : String × Plugin σ :=
  match plugin.store.getProperty plugin.files "audio.LEEnable" with
  | (.ok leEnable, store) => (leEnable, { plugin with store := store })
  | (.error _, store) =>
    let leEnable := if leDefaultDisabled then "FALSE" else "TRUE"
    (leEnable, ({ plugin with store := store }.persistProperty "audio.LEEnable" leEnable).2)

end Plugin

/-- The profile of the speaker at startup, which is persisted once it is set; false where
`persistHostProperty` throws. -/
def Plugin.tellProfile {σ : Type} (hal : Ms12ProfileHal σ) (plugin : Plugin σ) (handle : Int)
    (ms12Profile : String) : Bool × Plugin σ :=
  match hal.dsSetMS12AudioProfile plugin.hal handle ms12Profile with
  | (.error _, state) => (true, { plugin with hal := state })
  | (.ok _, state) =>
    match { plugin with hal := state }.persistProperty "audio.MS12Profile" ms12Profile with
    | (.error _, plugin) => (false, plugin)
    | (.ok _, plugin) => (true, plugin)

/-! ### The process -/

/-- What a process keeps for the audio component: the object with the HAL and the property
store, the globals and the statics. -/
structure AudioProcess (σ : Type) where
  volume : VolumePlugin σ
  globals : StereoGlobals
  /-- `m_LEEnabled`, which outlives the object as well. -/
  leEnabled : Bool
  /-- The pointer is not null. -/
  statics : StaticFunc → Bool

/-- A setting that is not of a port: its setter is called with the handle 0. -/
def VolumePlugin.initializeConfig {σ : Type} (key fallback : String)
    (set : σ → Int → String → Except DsError Unit × σ) (volume : VolumePlugin σ) :
    VolumePlugin σ :=
  let read := volume.plugin.readProperty key fallback
  { volume with plugin := { read.2 with hal := (set read.2.hal 0 read.1).2 } }

namespace AudioProcess

variable {σ : Type} (hal : ActivationHal σ) (build : AudioBuild)

/-- `initializeAudioSettings()`. -/
def initializeAudioSettings (process : AudioProcess σ) : AudioProcess σ :=
  let stereo : StereoPlugin σ := ⟨process.volume.plugin, process.globals⟩
  let stereo := stereo.initializeAudioPortSettings hal.toStereoAutoHal build.ignoreEdidLogic
  { process with
    volume.plugin := stereo.plugin.initializeMS12Settings hal.toMs12ProfileHal.toMs12Hal
    globals := stereo.globals }

/-- The section on loudness equivalence. -/
def initializeLE (process : AudioProcess σ) : AudioProcess σ :=
  match hal.dsGetAudioPort process.volume.plugin.hal .hdmi 0 with
  | .error _ => process
  | .ok handle =>
    if hal.resolvesConfig .dsEnableLEConfig then
      let read := process.volume.plugin.readLEEnable build.leDefaultDisabled
      let leEnabled : Bool := read.1 = "TRUE"
      { process with
        volume.plugin :=
          { read.2 with hal := (hal.dsEnableLEConfig read.2.hal handle leEnabled).2 }
        leEnabled := leEnabled }
    else process

/-- A section under `if (func == nullptr)`. -/
def initializeOnce (func : StaticFunc) (body : VolumePlugin σ → VolumePlugin σ)
    (process : AudioProcess σ) : AudioProcess σ :=
  if process.statics func then process
  else if hal.resolved func then
    { process with
      volume := body process.volume
      statics := Function.update process.statics func true }
  else process

/-- The MS12 profile of section 9; `none` where an exception ends `audioConfigInit`. -/
def initializeProfile (process : AudioProcess σ) : Option String × AudioProcess σ :=
  if process.statics .dsSetMS12AudioProfileFunc then (some "Off", process)
  else if hal.resolved .dsSetMS12AudioProfileFunc then
    let read := process.volume.plugin.readProperty "audio.MS12Profile" "Off"
    let process :=
      { process with
        volume.plugin := read.2
        statics := Function.update process.statics .dsSetMS12AudioProfileFunc true }
    match hal.dsGetAudioPort read.2.hal .speaker 0 with
    | .error _ => (some read.1, process)
    | .ok handle =>
      let told := read.2.tellProfile hal.toMs12ProfileHal handle read.1
      (if told.1 then some read.1 else none, { process with volume.plugin := told.2 })
  else (some "Off", process)

/-- Section 9 where profiles are supported. -/
def initializeSupportedProfile (process : AudioProcess σ) : AudioProcess σ :=
  let profile := process.initializeProfile hal
  match profile.1 with
  | none => profile.2
  | some ms12Profile =>
    if ms12Profile ≠ "Off" then
      { profile.2 with
        volume.plugin :=
          profile.2.volume.plugin.initializeMS12ProfileOverrides hal.toMs12ProfileHal.toMs12Hal }
    else profile.2

/-- Section 9 of `audioConfigInit`. -/
def initializeMs12 (process : AudioProcess σ) : AudioProcess σ :=
  let plugin := process.volume.plugin
  let supported :=
    match plugin.store.getDefaultProperty plugin.files "audio.MS12Profile.supported" with
    | (.ok value, store) => (value, { plugin with store := store })
    | (.error _, store) => ("FALSE", { plugin with store := store })
  let process := { process with volume.plugin := supported.2 }
  if supported.1 = "TRUE" then process.initializeSupportedProfile hal
  else if supported.1 = "FALSE" then
    { process with
      volume.plugin :=
        supported.2.initializeIndividualMS12Settings hal.toMs12ProfileHal.toMs12Hal }
  else process

/-! The sections in between, each with the setter it is about. -/

def initializeGain (process : AudioProcess σ) : AudioProcess σ :=
  { process with
    volume := process.volume.initializePorts hal.toPortSettingsHal .dsSetAudioGain audioGainKey "0"
      (VolumePlugin.applyGain hal.toPortSettingsHal) gainPorts }

def initializeLevel (process : AudioProcess σ) : AudioProcess σ :=
  process.initializeOnce hal .dsSetAudioLevelFunc fun volume =>
    levelPorts.foldl (VolumePlugin.initializePort hal.toPortSettingsHal audioLevelKey "40"
      (VolumePlugin.applyLevel hal.toPortSettingsHal)) volume

def initializeDelay (process : AudioProcess σ) : AudioProcess σ :=
  process.initializeOnce hal .dsSetAudioDelayFunc fun volume =>
    delayPorts.foldl (VolumePlugin.initializePort hal.toPortSettingsHal audioDelayKey "0"
      (VolumePlugin.applyDelay hal.toPortSettingsHal)) volume

def initializePrimaryLanguage (process : AudioProcess σ) : AudioProcess σ :=
  process.initializeOnce hal .dsSetPrimaryLanguageFunc
    (VolumePlugin.initializeConfig "audio.PrimaryLanguage" "eng" hal.dsSetPrimaryLanguage)

def initializeSecondaryLanguage (process : AudioProcess σ) : AudioProcess σ :=
  process.initializeOnce hal .dsSetSecondaryLanguageFunc
    (VolumePlugin.initializeConfig "audio.SecondaryLanguage" "eng" hal.dsSetSecondaryLanguage)

def initializeFaderControl (process : AudioProcess σ) : AudioProcess σ :=
  process.initializeOnce hal .dsSetFaderControlFunc
    (VolumePlugin.initializeConfig "audio.FaderControl" "0" fun state handle text =>
      hal.dsSetFaderControl state handle (atoi text))

def initializeAssociatedAudioMixing (process : AudioProcess σ) : AudioProcess σ :=
  process.initializeOnce hal .dsSetAssociatedAudioMixingFunc
    (VolumePlugin.initializeConfig "audio.AssociatedAudioMixing" "Disabled"
      fun state handle text => hal.dsSetAssociatedAudioMixing state handle (text = "Enabled"))

/-- `audioConfigInit()` under `DS_AUDIO_SETTINGS_PERSISTENCE`. -/
def audioConfigInit (process : AudioProcess σ) : AudioProcess σ :=
  let process := process.initializeLE hal build
  let process := process.initializeGain hal
  let process := process.initializeLevel hal
  let process := process.initializeDelay hal
  let process := process.initializePrimaryLanguage hal
  let process := process.initializeSecondaryLanguage hal
  let process := process.initializeFaderControl hal
  let process := process.initializeAssociatedAudioMixing hal
  process.initializeMs12 hal

/-- `InitialiseHAL()`. -/
def initialiseHAL (process : AudioProcess σ) : AudioProcess σ :=
  if process.volume.plugin.audio.isInitialized then process
  else
    let plugin := process.volume.plugin
    let plugin := { plugin with store := plugin.store.load plugin.files }
    match hal.dsAudioPortInit plugin.hal with
    | (.error _, state) => { process with volume.plugin := { plugin with hal := state } }
    | (.ok _, state) =>
      let process :=
        { process with
          volume.plugin := { plugin with hal := state, audio.isInitialized := true }
          volume.persistThreadAlive := true }
      (process.initializeAudioSettings hal build).audioConfigInit hal build

/-- `dAudioImpl()`: the members start anew, the level caches are global. -/
def construct (process : AudioProcess σ) : AudioProcess σ :=
  let process :=
    { process with
      volume.plugin.audio :=
        { process.volume.plugin.audio with
          isInitialized := false
          isDuckingInProgress := false
          volumeDuckingLevel := 0
          audioPortEnabled := fun _ => false }
      volume.muteStatus := false }
  process.initialiseHAL hal build

/-- `~dAudioImpl()`. -/
def destroy (process : AudioProcess σ) : AudioProcess σ :=
  let process := { process with volume.persistThreadAlive := false }
  if process.volume.plugin.audio.isInitialized then
    { process with
      volume.plugin.hal := (hal.dsAudioPortTerm process.volume.plugin.hal).2
      volume.plugin.audio.isInitialized := false }
  else process

end AudioProcess
end DeviceSettings.Audio
