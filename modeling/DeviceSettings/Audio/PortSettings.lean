import DeviceSettings.Audio.Volume
import DeviceSettings.Std.FixedPoint

/-!
# Gain, mute and delay of a port

The setters persist under a property for each port. `audioConfigInit` goes through lists of
ports of its own, one for gains, one for levels and one for delays, and through none for the
mute states; `IsAudioMuted` and `GetAudioDelay` read the properties instead.
-/

namespace DeviceSettings.Audio

open DeviceSettings.Std
open DeviceSettings.Persistence

/-- The symbols whose absence is told from a call that fails. -/
inductive PortSymbol where
  | dsSetAudioGain
  | dsSetAudioLevel
  | dsSetAudioDelay
  deriving DecidableEq, Repr

/-- The HAL with the calls for gain and for what is plugged in. -/
structure PortSettingsHal (σ : Type) extends VolumeHal σ where
  resolves : PortSymbol → Bool
  dsSetAudioGain : σ → Int → AudioLevel → Except DsError Unit × σ
  dsAudioOutIsConnected : σ → Int → Except DsError Bool

/-- The property of a port's gain. -/
def audioGainKey : DsAudioPortType → Option String
  | .spdif => some "SPDIF0.audio.Gain"
  | .hdmi => some "HDMI0.audio.Gain"
  | .speaker => some "SPEAKER0.audio.Gain"
  | _ => none

/-- The ports whose gain `audioConfigInit` sets. -/
def gainPorts : List DsAudioPortType := [.speaker, .hdmi, .spdif]

/-- The ports whose level `audioConfigInit` sets. -/
def levelPorts : List DsAudioPortType := [.spdif, .speaker, .headphone, .hdmi]

/-- The ports whose delay `audioConfigInit` sets. -/
def delayPorts : List DsAudioPortType := [.speaker, .hdmi, .hdmiArc]

namespace VolumePlugin

variable {σ : Type} (hal : PortSettingsHal σ)

/-- `SetAudioGain(handle, gainLevel)`. -/
def setAudioGain (state : VolumePlugin σ) (handle : Int) (gainLevel : AudioLevel) :
    Except CoreError Unit × VolumePlugin σ :=
  if state.plugin.audio.isInitialized = false then (.error .general, state)
  else if hal.resolves .dsSetAudioGain = false then (.error .general, state)
  else
    match hal.dsSetAudioGain state.plugin.hal handle gainLevel with
    | (.error _, halState) => (.error .general, { state with plugin.hal := halState })
    | (.ok _, halState) =>
      let state := { state with plugin.hal := halState }
      let portType := state.plugin.getAudioPortType hal.toAudioHal handle
      (.ok (), state.persist (audioGainKey portType) (levelString gainLevel))

/-- `IsAudioMuted(handle, muted)`: muted is what the store or the HAL calls muted. -/
def isAudioMuted (state : VolumePlugin σ) (handle : Int) :
    Except CoreError Bool × VolumePlugin σ :=
  if state.plugin.audio.isInitialized = false then (.error .general, state)
  else
    match hal.dsIsAudioMute state.plugin.hal handle with
    | .error _ => (.error .general, state)
    | .ok dsMuted =>
      match audioMuteKey (state.plugin.getAudioPortType hal.toAudioHal handle) with
      | none => (.ok dsMuted, state)
      | some muteKey =>
        match state.plugin.store.getProperty state.plugin.files muteKey with
        | (.ok value, store) =>
          (.ok (value = "TRUE" || dsMuted), { state with plugin.store := store })
        | (.error _, store) => (.ok dsMuted, { state with plugin.store := store })

/-- The call of `dsSetAudioDelay` in `SetAudioDelay`: a port that is not enabled is left alone. -/
def applyAudioDelay (state : VolumePlugin σ) (portType : DsAudioPortType) (handle : Int)
    (audioDelay : UInt32) : Except CoreError Unit × VolumePlugin σ :=
  if portType ≠ .max ∧ state.plugin.audio.audioPortEnabled portType then
    match hal.dsSetAudioDelay state.plugin.hal handle audioDelay.toNat with
    | (.ok _, halState) => (.ok (), { state with plugin.hal := halState })
    | (.error _, halState) => (.error .general, { state with plugin.hal := halState })
  else (.ok (), state)

/-- `SetAudioDelay(handle, audioDelay)`: the delay is persisted whatever the HAL answers. -/
def setAudioDelay (state : VolumePlugin σ) (handle : Int) (audioDelay : UInt32) :
    Except CoreError Unit × VolumePlugin σ :=
  if hal.resolves .dsSetAudioDelay = false then (.error .general, state)
  else
    let portType := state.plugin.getAudioPortType hal.toAudioHal handle
    let applied := state.applyAudioDelay hal portType handle audioDelay
    (applied.1, applied.2.persist (audioDelayKey portType) (toString audioDelay.toNat))

/-- `GetAudioDelay(handle, audioDelay)`. -/
def getAudioDelay (state : VolumePlugin σ) (handle : Int) :
    Except CoreError Nat × VolumePlugin σ :=
  let portType := state.plugin.getAudioPortType hal.toAudioHal handle
  let read := state.plugin.getAudioDelayInternal portType
  (.ok read.1, { state with plugin := read.2 })

/-- `isAudioOutputConnectedForInitialization(handle)`: an output that cannot be asked counts as
connected. -/
def isAudioOutputConnectedForInitialization (state : VolumePlugin σ) (handle : Int) : Bool :=
  match hal.dsAudioOutIsConnected state.plugin.hal handle with
  | .ok isConnected => isConnected
  | .error _ => true

/-! ### `audioConfigInit` -/

/-- What every section does with one port: `apply` gets the handle and the stored text. -/
def initializePort (key : DsAudioPortType → Option String) (fallback : String)
    (apply : DsAudioPortType → Int → String → VolumePlugin σ → VolumePlugin σ)
    (state : VolumePlugin σ) (portType : DsAudioPortType) : VolumePlugin σ :=
  match hal.dsGetAudioPort state.plugin.hal portType 0 with
  | .error _ => state
  | .ok handle =>
    let read :=
      match key portType with
      | some key => state.plugin.readProperty key fallback
      | none => (fallback, state.plugin)
    apply portType handle read.1 { state with plugin := read.2 }

/-- The gain of a port at startup. The answers of the HAL are only logged. -/
def applyGain (_ : DsAudioPortType) (handle : Int) (audioGain : String)
    (state : VolumePlugin σ) : VolumePlugin σ :=
  { state with plugin.hal := (hal.dsSetAudioGain state.plugin.hal handle (atof audioGain)).2 }

/-- The level of a port at startup. `g_LastVolumeLevel` is left with that of the last port; a
headphone counts where it is connected. -/
def applyLevel (portType : DsAudioPortType) (handle : Int) (audioLevel : String)
    (state : VolumePlugin σ) : VolumePlugin σ :=
  let audioLevelValue := atof audioLevel
  let cache := state.plugin.audio.audioLevelCache.store portType audioLevelValue
  let counts :=
    portType ≠ .headphone || state.isAudioOutputConnectedForInitialization hal handle
  { state with
    plugin.hal := (hal.dsSetAudioLevel state.plugin.hal handle audioLevelValue).2
    plugin.audio.audioLevelCache := cache
    lastVolumeLevel := if counts then audioLevelValue else state.lastVolumeLevel }

/-- The delay of a port at startup: an `int` that is passed on as a `uint32_t`. -/
def applyDelay (_ : DsAudioPortType) (handle : Int) (audioDelay : String)
    (state : VolumePlugin σ) : VolumePlugin σ :=
  let audioDelayValue := (atoi audioDelay % 2 ^ 32).toNat
  { state with plugin.hal := (hal.dsSetAudioDelay state.plugin.hal handle audioDelayValue).2 }

/-- A section of the startup code, which needs the symbol of its setter. -/
def initializePorts (symbol : PortSymbol) (key : DsAudioPortType → Option String)
    (fallback : String)
    (apply : DsAudioPortType → Int → String → VolumePlugin σ → VolumePlugin σ)
    (ports : List DsAudioPortType) (state : VolumePlugin σ) : VolumePlugin σ :=
  if hal.resolves symbol then ports.foldl (initializePort hal key fallback apply) state else state

/-- The sections of `audioConfigInit()` on gain, level and delay. -/
def audioConfigInit (state : VolumePlugin σ) : VolumePlugin σ :=
  let state := state.initializePorts hal .dsSetAudioGain audioGainKey "0" (applyGain hal) gainPorts
  let state :=
    state.initializePorts hal .dsSetAudioLevel audioLevelKey "40" (applyLevel hal) levelPorts
  state.initializePorts hal .dsSetAudioDelay audioDelayKey "0" (applyDelay hal) delayPorts

end VolumePlugin

/-- The calls that change the gain, the mute state or the delay of a port. -/
inductive PortCall where
  | setAudioGain (handle : Int) (gainLevel : AudioLevel)
  | setAudioMute (handle : Int) (mute : Bool)
  | setAudioDelay (handle : Int) (audioDelay : UInt32)
  deriving DecidableEq

/-- What a call leaves behind. -/
def PortCall.run {σ : Type} (hal : PortSettingsHal σ) (state : VolumePlugin σ) :
    PortCall → VolumePlugin σ
  | .setAudioGain handle gainLevel => (state.setAudioGain hal handle gainLevel).2
  | .setAudioMute handle mute => (state.setAudioMute hal.toVolumeHal handle mute).2
  | .setAudioDelay handle audioDelay => (state.setAudioDelay hal handle audioDelay).2

end DeviceSettings.Audio
