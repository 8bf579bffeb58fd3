import DeviceSettings.Audio.Enabling

/-!
# Volume, mute and ducking

The calls of `dAudioImpl` that move the level of a port. One `g_LastVolumeLevel`, one ducking
level and one mute flag serve all ports, while the HAL keeps level, mute and enabled state
port by port. The announcements to clients are not part of the state.
-/

namespace DeviceSettings.Audio

open DeviceSettings.Std
open DeviceSettings.Persistence

/-- The HAL with the calls for volume and mute. -/
structure VolumeHal (σ : Type) extends AudioHal σ where
  dsGetAudioLevel : σ → Int → Except DsError AudioLevel
  dsSetAudioMute : σ → Int → Bool → Except DsError Unit × σ

inductive AudioDuckingType where
  | absolute
  | relative
  deriving DecidableEq, Repr

inductive AudioDuckingAction where
  | start
  | stop
  deriving DecidableEq, Repr

/-- The plugin with `_muteStatus`, `g_LastVolumeLevel` and `g_audioLevelPersistThreadAlive`. -/
structure VolumePlugin (σ : Type) where
  plugin : Plugin σ
  muteStatus : Bool
  lastVolumeLevel : AudioLevel
  persistThreadAlive : Bool

/-- The conversion of a float to an integer type. -/
def truncate (level : AudioLevel) : Int := level.num.tdiv level.den

/-- `std::to_string(level)`: six decimals, ties to even. -/
def levelString (level : AudioLevel) : String :=
  let scaled : AudioLevel := (if level < 0 then -level else level) * 10 ^ 6
  let whole : Nat := scaled.floor.toNat
  let rest : AudioLevel := scaled - (whole : AudioLevel)
  let rounded : Nat :=
    if 1 / 2 < rest ∨ (rest = 1 / 2 ∧ whole % 2 = 1) then whole + 1 else whole
  let decimals := toString (rounded % 10 ^ 6)
  (if level < 0 then "-" else "") ++ toString (rounded / 10 ^ 6) ++ "." ++
    String.ofList (List.replicate (6 - decimals.length) '0') ++ decimals

/-- The port types whose level is cached and persisted, with the property of each. -/
def audioLevelKey : DsAudioPortType → Option String
  | .spdif => some "SPDIF0.audio.Level"
  | .hdmi => some "HDMI0.audio.Level"
  | .speaker => some "SPEAKER0.audio.Level"
  | .headphone => some "HEADPHONE0.audio.Level"
  | _ => none

/-- The property of a port's mute state. -/
def audioMuteKey : DsAudioPortType → Option String
  | .spdif => some "SPDIF0.audio.mute"
  | .hdmi => some "HDMI0.audio.mute"
  | .speaker => some "SPEAKER0.audio.mute"
  | .headphone => some "HEADPHONE0.audio.mute"
  | .hdmiArc => some "HDMI_ARC0.audio.mute"
  | _ => none

/-- The store of `cacheAudioLevelForPersist(portType, level)`. -/
def AudioLevelCache.store (cache : AudioLevelCache) (portType : DsAudioPortType)
    (level : AudioLevel) : AudioLevelCache :=
  match portType with
  | .spdif => { cache with spdif := level }
  | .hdmi => { cache with hdmi := level }
  | .speaker => { cache with speaker := level }
  | .headphone => { cache with headphone := level }
  | _ => cache

theorem AudioLevelCache.store_speaker (cache : AudioLevelCache) (portType : DsAudioPortType)
    (level : AudioLevel) :
    (cache.store portType level).speaker = if portType = .speaker then level else cache.speaker := by
  cases portType <;> rfl

/-- The volume `SetAudioDucking` computes; `level` is a `uint8_t`. The level is taken as the number
that it stands for: that a `float` rounds a level that is no integer, and what is computed of it, is
left out. -/
def duckingVolume (lastVolumeLevel : AudioLevel) (duckingType : AudioDuckingType)
    (duckingAction : AudioDuckingAction) (level : UInt8) : Int :=
  match duckingAction with
  | .start =>
    match duckingType with
    | .relative => truncate (lastVolumeLevel * level.toNat / 100)
    | .absolute => if level.toNat > lastVolumeLevel then truncate lastVolumeLevel else level.toNat
  | .stop => truncate lastVolumeLevel

namespace VolumePlugin

variable {σ : Type}

/-- Persist a value where the port type has a property; the plugin gives non-empty strings, so
nothing is thrown. -/
def persist (state : VolumePlugin σ) (key : Option String) (value : String) : VolumePlugin σ :=
  match key with
  | none => state
  | some key =>
    let persisted := state.plugin.store.persistHostProperty state.plugin.files key value
    { state with plugin.store := persisted.2.1, plugin.files := persisted.2.2 }

variable (hal : VolumeHal σ)

/-- The call of `dsSetAudioLevel` in `SetAudioLevel`, which ducking may replace or skip. -/
def applyAudioLevel (state : VolumePlugin σ) (portType : DsAudioPortType) (handle : Int)
    (audioLevel : AudioLevel) : Except DsError Unit × σ :=
  if portType = .speaker then
    let currentLevel : AudioLevel :=
      match hal.dsGetAudioLevel state.plugin.hal handle with
      | .ok level => level
      | .error _ => 0
    if state.plugin.audio.isDuckingInProgress ∧
        currentLevel ≠ state.plugin.audio.volumeDuckingLevel then
      hal.dsSetAudioLevel state.plugin.hal handle state.plugin.audio.volumeDuckingLevel
    else if state.plugin.audio.isDuckingInProgress then (.ok (), state.plugin.hal)
    else hal.dsSetAudioLevel state.plugin.hal handle audioLevel
  else hal.dsSetAudioLevel state.plugin.hal handle audioLevel

/-- `SetAudioLevel(handle, audioLevel)`. -/
def setAudioLevel (state : VolumePlugin σ) (handle : Int) (audioLevel : AudioLevel) :
    Except CoreError Unit × VolumePlugin σ :=
  if state.plugin.audio.isInitialized = false then (.error .general, state)
  else
    let portType := state.plugin.getAudioPortType hal.toAudioHal handle
    match state.applyAudioLevel hal portType handle audioLevel with
    | (.error _, halState) => (.error .general, { state with plugin.hal := halState })
    | (.ok _, halState) =>
      let state := { state with plugin.hal := halState, lastVolumeLevel := audioLevel }
      let portType := state.plugin.getAudioPortType hal.toAudioHal handle
      if state.persistThreadAlive then
        let cache := state.plugin.audio.audioLevelCache.store portType audioLevel
        (.ok (), { state with plugin.audio.audioLevelCache := cache })
      else (.ok (), state.persist (audioLevelKey portType) (levelString audioLevel))

/-- `GetAudioLevel(handle, audioLevel)`. -/
def getAudioLevel (state : VolumePlugin σ) (handle : Int) :
    Except CoreError AudioLevel × VolumePlugin σ :=
  if state.plugin.audio.isInitialized = false then (.error .general, state)
  else
    match hal.dsGetAudioLevel state.plugin.hal handle with
    | .ok audioLevel => (.ok audioLevel, { state with lastVolumeLevel := audioLevel })
    | .error _ => (.error .general, state)

/-- `SetAudioMute` behind the level of the speaker. -/
def applyAudioMute (state : VolumePlugin σ) (handle : Int) (mute : Bool) :
    Except CoreError Unit × VolumePlugin σ :=
  match hal.dsSetAudioMute state.plugin.hal handle mute with
  | (.error _, halState) => (.error .general, { state with plugin.hal := halState })
  | (.ok _, halState) =>
    let state := { state with plugin.hal := halState, muteStatus := mute }
    let portType := state.plugin.getAudioPortType hal.toAudioHal handle
    (.ok (), state.persist (audioMuteKey portType) (if mute then "TRUE" else "FALSE"))

/-- `SetAudioMute(handle, mute)`. -/
def setAudioMute (state : VolumePlugin σ) (handle : Int) (mute : Bool) :
    Except CoreError Unit × VolumePlugin σ :=
  if state.plugin.audio.isInitialized = false then (.error .general, state)
  else
    let portType := state.plugin.getAudioPortType hal.toAudioHal handle
    if mute = false ∧ portType = .speaker then
      match state.plugin.setAudioDuckingAudioLevel hal.toAudioHal handle with
      | (.error _, plugin) => (.error .general, { state with plugin := plugin })
      | (.ok _, plugin) => { state with plugin := plugin }.applyAudioMute hal handle mute
    else state.applyAudioMute hal handle mute

/-- `EnableAudioPort(handle, enable)`. -/
def enableAudioPort (state : VolumePlugin σ) (handle : Int) (enable : Bool) :
    Except CoreError Unit × VolumePlugin σ :=
  let called := state.plugin.enableAudioPort hal.toAudioHal handle enable
  (called.1, { state with plugin := called.2 })

/-- `SetAudioDucking(handle, duckingType, duckingAction, level)`. -/
def setAudioDucking (state : VolumePlugin σ) (handle : Int) (duckingType : AudioDuckingType)
    (duckingAction : AudioDuckingAction) (level : UInt8) :
    Except CoreError Unit × VolumePlugin σ :=
  if state.plugin.audio.isInitialized = false then (.error .general, state)
  else
    let portEnabled := gave (hal.dsIsAudioPortEnabled state.plugin.hal handle) true
    let volume := duckingVolume state.lastVolumeLevel duckingType duckingAction level
    let state := { state with plugin.audio.isDuckingInProgress := duckingAction == .start }
    if state.muteStatus || !portEnabled then
      (.ok (), { state with plugin.audio.volumeDuckingLevel := volume })
    else if volume ≠ state.plugin.audio.volumeDuckingLevel then
      match hal.dsSetAudioLevel state.plugin.hal handle volume with
      | (.ok _, halState) =>
        (.ok (), { state with
          plugin.hal := halState, plugin.audio.volumeDuckingLevel := volume })
      | (.error _, halState) => (.error .general, { state with plugin.hal := halState })
    else (.ok (), state)

end VolumePlugin

/-- The calls that the laws about volume range over. -/
inductive VolumeCall where
  | setAudioLevel (handle : Int) (level : AudioLevel)
  | getAudioLevel (handle : Int)
  | setAudioMute (handle : Int) (mute : Bool)
  | enableAudioPort (handle : Int) (enable : Bool)
  | setAudioDucking (handle : Int) (duckingType : AudioDuckingType)
      (duckingAction : AudioDuckingAction) (level : UInt8)
  deriving DecidableEq

/-- The port a call is for. -/
def VolumeCall.handle : VolumeCall → Int
  | .setAudioLevel handle _ | .getAudioLevel handle | .setAudioMute handle _
  | .enableAudioPort handle _ | .setAudioDucking handle _ _ _ => handle

/-- What a call leaves behind. -/
def VolumePlugin.perform {σ : Type} (hal : VolumeHal σ) (state : VolumePlugin σ) :
    VolumeCall → VolumePlugin σ
  | .setAudioLevel handle level => (state.setAudioLevel hal handle level).2
  | .getAudioLevel handle => (state.getAudioLevel hal handle).2
  | .setAudioMute handle mute => (state.setAudioMute hal handle mute).2
  | .enableAudioPort handle enable => (state.enableAudioPort hal handle enable).2
  | .setAudioDucking handle duckingType duckingAction level =>
    (state.setAudioDucking hal handle duckingType duckingAction level).2

end DeviceSettings.Audio
