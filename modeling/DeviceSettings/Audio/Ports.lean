import DeviceSettings.Hal
import DeviceSettings.Persistence.HostPersistence
import DeviceSettings.Std.CString
import Mathlib.Data.Rat.Defs
import Mathlib.Logic.Function.Basic

/-!
# Enabling audio ports

`dAudioImpl` over a HAL that keeps its own state. Three notions of an enabled port live
here: what the HAL reports, the table `_audioPortEnabled` and the persisted setting that
`GetAudioEnablePersist` reads.
-/

namespace DeviceSettings.Audio

open DeviceSettings.Std
open DeviceSettings.Persistence

/-- `AudioPortType` of the plugin interface. -/
inductive AudioPortType where
  | lr
  | hdmi
  | spdif
  | speaker
  | hdmiArc
  | headphone
  | max
  deriving DecidableEq, Repr

/-- `dsAudioPortType_t`. -/
inductive DsAudioPortType where
  | idLr
  | hdmi
  | spdif
  | speaker
  | hdmiArc
  | headphone
  | max
  deriving DecidableEq, Repr

/-- Audio levels are floats; their exact values are all the code passes on. -/
abbrev AudioLevel := ℚ

/-- The audio entry points of the HAL over the state it keeps. A symbol that cannot be
resolved is a call that fails. -/
structure AudioHal (σ : Type) where
  dsGetAudioPort : σ → DsAudioPortType → Int → Except DsError Int
  dsIsAudioPortEnabled : σ → Int → Except DsError Bool
  dsIsAudioMute : σ → Int → Except DsError Bool
  dsEnableAudioPort : σ → Int → Bool → Except DsError Unit × σ
  dsSetAudioLevel : σ → Int → AudioLevel → Except DsError Unit × σ
  dsSetAudioDelay : σ → Int → Nat → Except DsError Unit × σ

/-- `g_audioLevelCacheSpdif` and its three siblings. -/
structure AudioLevelCache where
  spdif : AudioLevel
  hdmi : AudioLevel
  speaker : AudioLevel
  headphone : AudioLevel
  deriving DecidableEq

/-- What `dAudioImpl` keeps of its own for its ports. -/
structure AudioImpl where
  isInitialized : Bool
  isDuckingInProgress : Bool
  volumeDuckingLevel : Int
  audioLevelCache : AudioLevelCache
  audioPortEnabled : DsAudioPortType → Bool

/-- The plugin between its clients and the hardware: the HAL's state, the audio object, the
property store and the files under it. -/
structure Plugin (σ : Type) where
  hal : σ
  audio : AudioImpl
  store : HostPersistence
  files : Files String

/-- `convertToDS(type)`. -/
def convertToDS : AudioPortType → DsAudioPortType
  | .lr => .idLr
  | .hdmi => .hdmi
  | .spdif => .spdif
  | .speaker => .speaker
  | .hdmiArc => .hdmiArc
  | .headphone => .headphone
  | .max => .max

/-- The port types `getAudioPortType` tries, in its order. -/
def portTypes : List DsAudioPortType := [.hdmi, .spdif, .speaker, .hdmiArc, .headphone]

/-- The property `getAudioDelayInternal` reads for a port type. -/
def audioDelayKey : DsAudioPortType → Option String
  | .spdif => some "SPDIF0.audio.Delay"
  | .hdmi => some "HDMI0.audio.Delay"
  | .speaker => some "SPEAKER0.audio.Delay"
  | .hdmiArc => some "HDMI_ARC0.audio.Delay"
  | _ => none

/-- The cached level that is restored when a port other than the speaker is enabled. -/
def AudioLevelCache.restored (cache : AudioLevelCache) : DsAudioPortType → Option AudioLevel
  | .spdif => some cache.spdif
  | .hdmi => some cache.hdmi
  | .headphone => some cache.headphone
  | _ => none

namespace Plugin

variable {σ : Type}

/-- The pattern of every persisted setting: the property, else its default, else a constant. -/
def readProperty (plugin : Plugin σ) (key fallback : String) : String × Plugin σ :=
  match plugin.store.getProperty plugin.files key with
  | (.ok value, store) => (value, { plugin with store := store })
  | (.error _, store) =>
    match store.getDefaultProperty plugin.files key with
    | (.ok value, store) => (value, { plugin with store := store })
    | (.error _, store) => (fallback, { plugin with store := store })

/-- `getAudioDelayInternal(portType)`; the delay is stored in 32 bits. -/
def getAudioDelayInternal (plugin : Plugin σ) (portType : DsAudioPortType) : Nat × Plugin σ :=
  let read :=
    match audioDelayKey portType with
    | some key => plugin.readProperty key "0"
    | none => ("0", plugin)
  (((stoul read.1).getD 0) % 2 ^ 32, read.2)

/-- The property of a port's user setting. -/
def isEnabledAudioPortKey (portName : String) : String := "audio." ++ portName ++ ".isEnabled"

/-- `GetAudioEnablePersist(handle, enabled, portName)`; the handle is only logged. -/
def getAudioEnablePersist (plugin : Plugin σ) (portName : String) :
    Except CoreError Bool × Plugin σ :=
  if plugin.audio.isInitialized = false then (.error .general, plugin)
  else
    let read := plugin.readProperty (isEnabledAudioPortKey portName) "TRUE"
    (.ok (read.1 != "FALSE"), read.2)

variable (hal : AudioHal σ)

/-- `GetAudioPort(type, index, handle)`. -/
def getAudioPort (plugin : Plugin σ) (type : AudioPortType) (index : Int) :
    Except CoreError Int :=
  if plugin.audio.isInitialized = false then .error .general
  else
    match hal.dsGetAudioPort plugin.hal (convertToDS type) index with
    | .ok handle => .ok (int32Handle handle)
    | .error _ => .error .general

/-- `IsAudioPortEnabled(handle, enabled)`: what the HAL reports. -/
def isAudioPortEnabled (plugin : Plugin σ) (handle : Int) : Except CoreError Bool :=
  match hal.dsIsAudioPortEnabled plugin.hal handle with
  | .ok enabled => .ok enabled
  | .error _ => .error .general

/-- `getAudioPortType(handle)`: the first type whose port 0 has the handle. -/
def getAudioPortType (plugin : Plugin σ) (handle : Int) : DsAudioPortType :=
  (portTypes.find? fun type =>
    match hal.dsGetAudioPort plugin.hal type 0 with
    | .ok halHandle => handle == halHandle
    | .error _ => false).getD .max

/-- `setAudioDuckingAudioLevel(handle)`. -/
def setAudioDuckingAudioLevel (plugin : Plugin σ) (handle : Int) :
    Except CoreError Unit × Plugin σ :=
  let volume : AudioLevel :=
    if plugin.audio.isDuckingInProgress then plugin.audio.volumeDuckingLevel
    else plugin.audio.audioLevelCache.speaker
  match hal.dsSetAudioLevel plugin.hal handle volume with
  | (.ok _, state) => (.ok (), { plugin with hal := state })
  | (.error _, state) => (.error .general, { plugin with hal := state })

/-- `setAudioDelayInternal(handle, audioDelay)`; its answer is only logged. -/
def setAudioDelayInternal (plugin : Plugin σ) (handle : Int) (audioDelay : Nat) : Plugin σ :=
  { plugin with hal := (hal.dsSetAudioDelay plugin.hal handle audioDelay).2 }

/-- The special case of `EnableAudioPort` for the speaker: its level is set first, unless the
port is muted. A failing `dsIsAudioMute` leaves `muted` at false. -/
def prepareSpeaker (plugin : Plugin σ) (portType : DsAudioPortType) (handle : Int)
    (enable : Bool) : Except CoreError Unit × Plugin σ :=
  if portType = .speaker then
    let muted :=
      match hal.dsIsAudioMute plugin.hal handle with
      | .ok muted => muted
      | .error _ => false
    if enable && !muted then plugin.setAudioDuckingAudioLevel hal handle else (.ok (), plugin)
  else (.ok (), plugin)

/-- Under `DS_AUDIO_SETTINGS_PERSISTENCE` enabling a port restores its cached level; a
failure is only logged. -/
def restoreAudioLevel (plugin : Plugin σ) (portType : DsAudioPortType) (handle : Int)
    (enable : Bool) : Plugin σ :=
  if enable && portType != .speaker then
    match plugin.audio.audioLevelCache.restored portType with
    | some level => { plugin with hal := (hal.dsSetAudioLevel plugin.hal handle level).2 }
    | none => plugin
  else plugin

/-- `_audioPortEnabled[portType] = enable`, and the port's delay when it is enabled. -/
def trackAudioPort (plugin : Plugin σ) (portType : DsAudioPortType) (handle : Int)
    (enable : Bool) : Plugin σ :=
  if portType = .max then plugin
  else
    let audioPortEnabled := Function.update plugin.audio.audioPortEnabled portType enable
    let plugin := { plugin with audio.audioPortEnabled := audioPortEnabled }
    if enable then
      let delay := plugin.getAudioDelayInternal portType
      delay.2.setAudioDelayInternal hal handle delay.1
    else plugin

/-- The end of `EnableAudioPort`: the HAL is asked whether the port has changed; that it
cannot say is no failure. -/
def verifyAudioPort (plugin : Plugin σ) (portType : DsAudioPortType) (handle : Int)
    (enable : Bool) : Except CoreError Unit × Plugin σ :=
  match hal.dsIsAudioPortEnabled plugin.hal handle with
  | .ok portEnabled =>
    if portEnabled ≠ enable then (.error .general, plugin)
    else (.ok (), plugin.trackAudioPort hal portType handle enable)
  | .error _ => (.ok (), plugin)

/-- `EnableAudioPort(handle, enable)`. -/
def enableAudioPort (plugin : Plugin σ) (handle : Int) (enable : Bool) :
    Except CoreError Unit × Plugin σ :=
  if plugin.audio.isInitialized = false then (.error .general, plugin)
  else
    let portType := plugin.getAudioPortType hal handle
    match plugin.prepareSpeaker hal portType handle enable with
    | (.error error, plugin) => (.error error, plugin)
    | (.ok _, plugin) =>
      match hal.dsEnableAudioPort plugin.hal handle enable with
      | (.error _, state) => (.error .general, { plugin with hal := state })
      | (.ok _, state) =>
        let plugin := { plugin with hal := state }
        (plugin.restoreAudioLevel hal portType handle enable).verifyAudioPort hal
          portType handle enable

end Plugin

/-- The ports are fixed, and each has a handle of its own that fits the interface. -/
structure AudioHal.DistinctPorts {σ : Type} (hal : AudioHal σ) : Prop where
  fixed : ∀ state other, hal.dsGetAudioPort state = hal.dsGetAudioPort other
  narrow : ∀ state type handle, hal.dsGetAudioPort state type 0 = .ok handle →
    int32Handle handle = handle
  distinct : ∀ state type other handle, hal.dsGetAudioPort state type 0 = .ok handle →
    hal.dsGetAudioPort state other 0 = .ok handle → type = other

/-- The look-up by handle finds the type the handle was got for. -/
theorem AudioHal.DistinctPorts.getAudioPortType {σ : Type} {hal : AudioHal σ}
    (ports : hal.DistinctPorts) {plugin : Plugin σ} {type : DsAudioPortType} {handle : Int}
    (listed : type ∈ portTypes) (port : hal.dsGetAudioPort plugin.hal type 0 = .ok handle) :
    plugin.getAudioPortType hal handle = type := by
  unfold Plugin.getAudioPortType
  cases found : portTypes.find? fun type =>
      match hal.dsGetAudioPort plugin.hal type 0 with
      | .ok halHandle => handle == halHandle
      | .error _ => false with
  | none =>
      have missed := List.find?_eq_none.mp found type listed
      simp [port] at missed
  | some other =>
      have matched := List.find?_some found
      cases held : hal.dsGetAudioPort plugin.hal other 0 with
      | error error => simp [held] at matched
      | ok otherHandle =>
          simp only [held, beq_iff_eq] at matched
          subst matched
          exact ports.distinct _ _ _ _ held port

/-- The look-up asks for the ports of the HAL alone. -/
theorem AudioHal.DistinctPorts.getAudioPortType_fixed {σ : Type} {hal : AudioHal σ}
    (ports : hal.DistinctPorts) (plugin other : Plugin σ) (handle : Int) :
    plugin.getAudioPortType hal handle = other.getAudioPortType hal handle := by
  unfold Plugin.getAudioPortType
  rw [ports.fixed plugin.hal other.hal]

/-- A type that the look-up finds has the handle. -/
theorem Plugin.port_of_getAudioPortType {σ : Type} {hal : AudioHal σ} {plugin : Plugin σ}
    {type : DsAudioPortType} {handle : Int}
    (found : plugin.getAudioPortType hal handle = type) (known : type ≠ .max) :
    hal.dsGetAudioPort plugin.hal type 0 = .ok handle := by
  unfold Plugin.getAudioPortType at found
  cases first : portTypes.find? fun type =>
      match hal.dsGetAudioPort plugin.hal type 0 with
      | .ok halHandle => handle == halHandle
      | .error _ => false with
  | none =>
      rw [first] at found
      exact absurd found.symm known
  | some other =>
      rw [first, Option.getD_some] at found
      subst found
      have matched := List.find?_some first
      cases held : hal.dsGetAudioPort plugin.hal other 0 with
      | error error => simp [held] at matched
      | ok halHandle =>
          simp only [held, beq_iff_eq] at matched
          rw [matched]

/-- The look-up finds a type for the handle of its port and for no other. -/
theorem AudioHal.DistinctPorts.getAudioPortType_eq_iff {σ : Type} {hal : AudioHal σ}
    (ports : hal.DistinctPorts) (plugin : Plugin σ) {type : DsAudioPortType} {handle : Int}
    {state : σ} (listed : type ∈ portTypes) (port : hal.dsGetAudioPort state type 0 = .ok handle)
    (other : Int) : plugin.getAudioPortType hal other = type ↔ other = handle := by
  have known : ∀ type ∈ portTypes, type ≠ .max := by decide
  rw [ports.fixed state plugin.hal] at port
  constructor
  · intro found
    have held := Plugin.port_of_getAudioPortType found (known type listed)
    rw [port] at held
    exact (Except.ok.inj held).symm
  · rintro rfl
    exact ports.getAudioPortType listed port

/-- The handle of `GetAudioPort` is the HAL's own. -/
theorem AudioHal.DistinctPorts.port_of_getAudioPort {σ : Type} {hal : AudioHal σ}
    (ports : hal.DistinctPorts) {plugin : Plugin σ} {type : AudioPortType} {handle : Int}
    (got : plugin.getAudioPort hal type 0 = .ok handle) :
    plugin.audio.isInitialized = true ∧
      hal.dsGetAudioPort plugin.hal (convertToDS type) 0 = .ok handle := by
  unfold Plugin.getAudioPort at got
  split_ifs at got with ready
  cases port : hal.dsGetAudioPort plugin.hal (convertToDS type) 0 with
  | error error => simp [port] at got
  | ok halHandle =>
      simp only [port, ports.narrow _ _ _ port, Except.ok.injEq] at got
      exact ⟨by simpa using ready, by rw [got]⟩

end DeviceSettings.Audio
