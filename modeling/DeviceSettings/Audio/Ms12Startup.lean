import DeviceSettings.Audio.Ms12Settings

/-!
# Audio processing settings at startup

`initializeIndividualMS12Settings` and the end of `audioConfigInit`, which decides whether it
runs. The names of its properties are written out and know of no profile.
-/

namespace DeviceSettings.Audio

open DeviceSettings.Std
open DeviceSettings.Persistence

namespace Plugin

variable {σ : Type}

/-- Two properties that are read together: both of them, else both defaults, else zeros. The
first component says whether the properties themselves were there. -/
def readPair (plugin : Plugin σ) (first second : String) :
    Bool × (String × String) × Plugin σ :=
  match plugin.store.getProperty plugin.files first with
  | (.ok left, store) =>
    match store.getProperty plugin.files second with
    | (.ok right, store) => (true, (left, right), { plugin with store := store })
    | (.error _, store) => defaultPair { plugin with store := store }
  | (.error _, store) => defaultPair { plugin with store := store }
where
  defaultPair (plugin : Plugin σ) : Bool × (String × String) × Plugin σ :=
    match plugin.store.getDefaultProperty plugin.files first with
    | (.ok left, store) =>
      match store.getDefaultProperty plugin.files second with
      | (.ok right, store) => (false, (left, right), { plugin with store := store })
      | (.error _, store) => (false, ("0", "0"), { plugin with store := store })
    | (.error _, store) => (false, ("0", "0"), { plugin with store := store })

section Startup

variable (hal : Ms12Hal σ)

/-- Tell the HAL about the speaker and HDMI, where they exist; the answers are only logged. -/
def initializeOnPorts (plugin : Plugin σ) (call : DsMs12Call) : Plugin σ :=
  [DsAudioPortType.speaker, .hdmi].foldl (fun plugin type =>
    match hal.dsGetAudioPort plugin.hal type 0 with
    | .ok handle => { plugin with hal := (hal.call plugin.hal handle call).2 }
    | .error _ => plugin) plugin

/-- A setting with one property: read it and tell both ports, unless the entry point is
missing. -/
def initializeSetting (plugin : Plugin σ) (setting : Ms12Setting) (key fallback : String)
    (call : String → DsMs12Call) : Plugin σ :=
  if hal.resolves setting then
    let read := plugin.readProperty key fallback
    read.2.initializeOnPorts hal (call read.1)
  else plugin

def initializeAudioCompression (plugin : Plugin σ) : Plugin σ :=
  plugin.initializeSetting hal .audioCompression "audio.Compression" "0" fun value =>
    .dsSetAudioCompression (atoi value)

def initializeDialogEnhancement (plugin : Plugin σ) : Plugin σ :=
  plugin.initializeSetting hal .dialogEnhancement "audio.EnhancerLevel" "0" fun value =>
    .dsSetDialogEnhancement (atoi value)

/-- The Dolby volume mode with `bDolbyVolumeOverrideCheck`: a stored mode turns it off. -/
def initializeDolbyVolumeMode (plugin : Plugin σ) : Bool × Plugin σ :=
  if hal.resolves .dolbyVolumeMode then
    match plugin.store.getProperty plugin.files "audio.DolbyVolumeMode" with
    | (.ok value, store) =>
      (false, { plugin with store := store }.initializeOnPorts hal
        (.dsSetDolbyVolumeMode (value = "TRUE")))
    | (.error _, store) =>
      match store.getDefaultProperty plugin.files "audio.DolbyVolumeMode" with
      | (.ok value, store) =>
        (true, { plugin with store := store }.initializeOnPorts hal
          (.dsSetDolbyVolumeMode (value = "TRUE")))
      | (.error _, store) =>
        (true, { plugin with store := store }.initializeOnPorts hal (.dsSetDolbyVolumeMode false))
  else (true, plugin)

def initializeIntelligentEqualizerMode (plugin : Plugin σ) : Plugin σ :=
  plugin.initializeSetting hal .intelligentEqualizerMode "audio.IntelligentEQ" "0" fun value =>
    .dsSetIntelligentEqualizerMode (atoi value)

/-- The volume leveller: it is left out where a Dolby volume mode was stored, unless its own
properties are stored as well. -/
def initializeVolumeLeveller (plugin : Plugin σ) (dolbyVolumeOverrideCheck : Bool) : Plugin σ :=
  if hal.resolves .volumeLeveller then
    let read := plugin.readPair "audio.VolumeLeveller.mode" "audio.VolumeLeveller.level"
    if dolbyVolumeOverrideCheck || read.1 then
      read.2.2.initializeOnPorts hal
        (.dsSetVolumeLeveller (atoi read.2.1.1) (atoi read.2.1.2))
    else read.2.2
  else plugin

def initializeBassEnhancer (plugin : Plugin σ) : Plugin σ :=
  plugin.initializeSetting hal .bassEnhancer "audio.BassBoost" "0" fun value =>
    .dsSetBassEnhancer (atoi value)

def initializeSurroundDecoder (plugin : Plugin σ) : Plugin σ :=
  plugin.initializeSetting hal .surroundDecoder "audio.SurroundDecoderEnabled" "FALSE" fun value =>
    .dsEnableSurroundDecoder (value = "TRUE")

def initializeDRCMode (plugin : Plugin σ) : Plugin σ :=
  plugin.initializeSetting hal .drcMode "audio.DRCMode" "Line" fun value =>
    .dsSetDRCMode (if value = "RF" then 1 else 0)

def initializeSurroundVirtualizer (plugin : Plugin σ) : Plugin σ :=
  if hal.resolves .surroundVirtualizer then
    let read := plugin.readPair "audio.SurroundVirtualizer.mode" "audio.SurroundVirtualizer.boost"
    read.2.2.initializeOnPorts hal
      (.dsSetSurroundVirtualizer (atoi read.2.1.1) (atoi read.2.1.2))
  else plugin

def initializeMISteering (plugin : Plugin σ) : Plugin σ :=
  plugin.initializeSetting hal .miSteering "audio.MISteering" "Disabled" fun value =>
    .dsSetMISteering (value = "Enabled")

def initializeGraphicEqualizerMode (plugin : Plugin σ) : Plugin σ :=
  plugin.initializeSetting hal .graphicEqualizerMode "audio.GraphicEQ" "0" fun value =>
    .dsSetGraphicEqualizerMode (atoi value)

/-- `initializeIndividualMS12Settings()`. -/
def initializeIndividualMS12Settings (plugin : Plugin σ) : Plugin σ :=
  let plugin := plugin.initializeAudioCompression hal
  let plugin := plugin.initializeDialogEnhancement hal
  let dolby := plugin.initializeDolbyVolumeMode hal
  let plugin := dolby.2.initializeIntelligentEqualizerMode hal
  let plugin := plugin.initializeVolumeLeveller hal dolby.1
  let plugin := plugin.initializeBassEnhancer hal
  let plugin := plugin.initializeSurroundDecoder hal
  let plugin := plugin.initializeDRCMode hal
  let plugin := plugin.initializeSurroundVirtualizer hal
  let plugin := plugin.initializeMISteering hal
  plugin.initializeGraphicEqualizerMode hal

/-- The end of `audioConfigInit`, its section 9; the sections before it tell the HAL about other
settings. What is done where profiles are supported is `initializeProfile`. -/
def audioConfigInitMs12 (initializeProfile : Plugin σ → Plugin σ) (plugin : Plugin σ) :
    Plugin σ :=
  let supported :=
    match plugin.store.getDefaultProperty plugin.files "audio.MS12Profile.supported" with
    | (.ok value, store) => (value, { plugin with store := store })
    | (.error _, store) => ("FALSE", { plugin with store := store })
  if supported.1 = "TRUE" then initializeProfile supported.2
  else if supported.1 = "FALSE" then supported.2.initializeIndividualMS12Settings hal
  else supported.2

end Startup
end Plugin
end DeviceSettings.Audio
