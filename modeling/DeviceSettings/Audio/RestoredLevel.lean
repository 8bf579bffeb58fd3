import DeviceSettings.Audio.PortSettingsRestart
import DeviceSettings.Audio.PortValues

/-!
# The level of a port that was disabled

Some HALs forget the level of a port when it is disabled. `dAudioImpl` brings the level back from
a cache for each port type: for the speaker before the HAL enables or unmutes it, for the other
ports behind it.
-/

namespace DeviceSettings.Audio

open DeviceSettings.Std
open DeviceSettings.Persistence

/-- Every call succeeds, and a disabled port is left with some level of the HAL's own. -/
structure PortSettingsHal.ResetsLevels {σ : Type} (hal : PortSettingsHal σ)
    (values : σ → PortValues) : Prop extends hal.StoresVolume values where
  resolved : hal.resolves .dsSetAudioLevel = true
  enables : ∀ state handle, (hal.dsEnableAudioPort state handle true).1 = .ok () ∧
    values (hal.dsEnableAudioPort state handle true).2 =
      { values state with enabled := Function.update (values state).enabled handle true }
  disables : ∀ state handle, (hal.dsEnableAudioPort state handle false).1 = .ok () ∧
    ∃ level, values (hal.dsEnableAudioPort state handle false).2 =
      { values state with
        level := Function.update (values state).level handle level
        enabled := Function.update (values state).enabled handle false }

/-- What the HAL stores under one handle. -/
structure HeldPort where
  level : AudioLevel
  muted : Bool
  enabled : Bool

/-- What the HAL stores under this handle. -/
def PortValues.port (held : PortValues) (handle : Int) : HeldPort :=
  ⟨held.level handle, held.muted handle, held.enabled handle⟩

/-- The port is enabled, and unmuted where it is the speaker. -/
def HeldPort.Audible (port : HeldPort) (portType : DsAudioPortType) : Prop :=
  port.enabled = true ∧ (portType = .speaker → port.muted = false)

/-- The level a call asks for on the port with this handle. -/
def VolumeCall.requestedLevel (handle : Int) : VolumeCall → Option AudioLevel
  | .setAudioLevel other level => if other = handle then some level else none
  | _ => none

/-- The call starts or stops ducking. -/
def VolumeCall.ducks : VolumeCall → Bool
  | .setAudioDucking _ _ _ _ => true
  | _ => false

/-- The cached level of a port type. -/
def AudioLevelCache.load (cache : AudioLevelCache) : DsAudioPortType → Option AudioLevel
  | .spdif => some cache.spdif
  | .hdmi => some cache.hdmi
  | .speaker => some cache.speaker
  | .headphone => some cache.headphone
  | _ => none

theorem AudioLevelCache.load_store (cache : AudioLevelCache) (stored : DsAudioPortType)
    (level : AudioLevel) {portType : DsAudioPortType} (listed : portType ∈ levelPorts) :
    (cache.store stored level).load portType =
      if stored = portType then some level else cache.load portType := by
  cases portType with
  | spdif | speaker | headphone | hdmi => cases stored <;> rfl
  | idLr | hdmiArc | max => simp [levelPorts] at listed

theorem AudioLevelCache.restored_of_ne (cache : AudioLevelCache) {portType : DsAudioPortType}
    (other : portType ≠ .speaker) : cache.restored portType = cache.load portType := by
  cases portType <;> first | rfl | exact absurd rfl other

/-- The ports with a cached level can be found by their handle. -/
theorem mem_portTypes_of_levelPorts {portType : DsAudioPortType} (listed : portType ∈ levelPorts) :
    portType ∈ portTypes := by
  cases portType <;> first | decide | simp [levelPorts] at listed

/-! ### What initialisation leaves -/

section Startup

variable {σ : Type} {hal : PortSettingsHal σ} {values : σ → PortValues}
  (resets : hal.ResetsLevels values)

/-- The plugin serves clients from this store: no ducking is going on, and the thread that
persists levels runs. -/
structure Calm (store : HostPersistence) (state : VolumePlugin σ) : Prop where
  up : state.plugin.Up
  store : state.plugin.store = store
  calm : state.plugin.audio.isDuckingInProgress = false
  alive : state.persistThreadAlive = true

/-- The level of a port in the HAL, and the cached one. -/
def levelView (hal : PortSettingsHal σ) (values : σ → PortValues) (portType : DsAudioPortType)
    (state : VolumePlugin σ) : Option AudioLevel × Option AudioLevel :=
  ((hal.dsGetAudioPort state.plugin.hal portType 0).toOption.map
      (values state.plugin.hal).level,
    state.plugin.audio.audioLevelCache.load portType)

/-- The level that startup finds in the store for a port. -/
def startupLevel (store : HostPersistence) (portType : DsAudioPortType) : AudioLevel :=
  atof (storedText store audioLevelKey "40" portType)

include resets in
theorem levelView_applyDelay (portType other : DsAudioPortType) (handle : Int) (text : String)
    (state : VolumePlugin σ) :
    levelView hal values other (VolumePlugin.applyDelay hal portType handle text state) =
      levelView hal values other state := by
  unfold levelView VolumePlugin.applyDelay
  dsimp only
  rw [resets.delays, resets.ports.fixed _ state.plugin.hal]

include resets in
theorem levelView_applyLevel {portType other : DsAudioPortType} (listed : other ∈ levelPorts)
    {handle : Int} (text : String) {state : VolumePlugin σ}
    (port : hal.dsGetAudioPort state.plugin.hal portType 0 = .ok handle) :
    levelView hal values other (VolumePlugin.applyLevel hal portType handle text state) =
      if other = portType then (some (atof text), some (atof text))
      else levelView hal values other state := by
  unfold levelView VolumePlugin.applyLevel
  dsimp only
  rw [(resets.setsLevel state.plugin.hal handle (atof text)).2,
    resets.ports.fixed _ state.plugin.hal, AudioLevelCache.load_store _ _ _ listed]
  by_cases own : other = portType
  · subst own
    rw [port, if_pos rfl, if_pos rfl]
    exact congrArg (fun level => (some level, some (atof text))) (Function.update_self _ _ _)
  · rw [if_neg own, if_neg (Ne.symm own)]
    cases found : hal.dsGetAudioPort state.plugin.hal other 0 with
    | error error => rfl
    | ok otherHandle =>
        have different : otherHandle ≠ handle := by
          rintro rfl
          exact own (resets.ports.distinct _ _ _ _ found port)
        exact congrArg (fun level => (some level, state.plugin.audio.audioLevelCache.load other))
          (Function.update_of_ne different _ _)

theorem calm_applyGain {store : HostPersistence} {state : VolumePlugin σ}
    (serving : Calm store state) (portType : DsAudioPortType) (handle : Int) (text : String) :
    Calm store (VolumePlugin.applyGain hal portType handle text state) :=
  ⟨serving.up.withHal _, serving.store, serving.calm, serving.alive⟩

theorem calm_applyLevel {store : HostPersistence} {state : VolumePlugin σ}
    (serving : Calm store state) (portType : DsAudioPortType) (handle : Int) (text : String) :
    Calm store (VolumePlugin.applyLevel hal portType handle text state) :=
  ⟨⟨serving.up.initialized, serving.up.ready⟩, serving.store, serving.calm, serving.alive⟩

theorem calm_applyDelay {store : HostPersistence} {state : VolumePlugin σ}
    (serving : Calm store state) (portType : DsAudioPortType) (handle : Int) (text : String) :
    Calm store (VolumePlugin.applyDelay hal portType handle text state) :=
  ⟨serving.up.withHal _, serving.store, serving.calm, serving.alive⟩

include resets in
/-- The section on levels gives every port it finds the level of the store, in the HAL and in the
cache. -/
theorem levelView_initializeLevels {start : VolumePlugin σ} {store : HostPersistence}
    (serving : Calm store start) {portType : DsAudioPortType} (listed : portType ∈ levelPorts) :
    let after := start.initializePorts hal .dsSetAudioLevel audioLevelKey "40"
      (VolumePlugin.applyLevel hal) levelPorts
    Calm store after ∧
      levelView hal values portType after =
        if (hal.dsGetAudioPort start.plugin.hal portType 0).toOption.isSome then
          (some (startupLevel store portType), some (startupLevel store portType))
        else levelView hal values portType start := by
  intro after
  have resolved : after = levelPorts.foldl (VolumePlugin.initializePort hal audioLevelKey "40"
      (VolumePlugin.applyLevel hal)) start := if_pos resets.resolved
  obtain ⟨kept, inside, -⟩ := foldl_own (Calm store)
    (fun item state => if item ∈ levelPorts then some (levelView hal values item state) else none)
    (fun item view => view.map fun view =>
      if view.1.isSome then (some (startupLevel store item), some (startupLevel store item))
      else view)
    (VolumePlugin.initializePort hal audioLevelKey "40" (VolumePlugin.applyLevel hal))
    (show levelPorts.Nodup by decide) serving
    (fun state serving item _ => by
      rw [initializePort_eq audioLevelKey_ne serving.up.ready]
      split
      · exact serving
      · exact calm_applyLevel serving _ _ _)
    (fun state serving item member => by
      rw [initializePort_eq audioLevelKey_ne serving.up.ready, serving.store, if_pos member,
        if_pos member, Option.map_some]
      cases port : hal.dsGetAudioPort state.plugin.hal item 0 with
      | error error =>
          rw [if_neg]
          simp [levelView, port, Except.toOption]
      | ok handle =>
          rw [levelView_applyLevel resets member _ port, if_pos rfl, if_pos]
          · rfl
          · simp [levelView, port, Except.toOption])
    (fun state serving item _ other different => by
      by_cases member : other ∈ levelPorts
      · rw [initializePort_eq audioLevelKey_ne serving.up.ready, if_pos member, if_pos member]
        cases port : hal.dsGetAudioPort state.plugin.hal item 0 with
        | error error => rfl
        | ok handle =>
            rw [levelView_applyLevel resets member _ port, if_neg different]
      · rw [if_neg member, if_neg member])
    portType
  rw [← resolved] at kept inside
  refine ⟨kept, ?_⟩
  have view := inside listed
  rw [if_pos listed, if_pos listed, Option.map_some, Option.some.injEq] at view
  rw [view]
  simp [levelView]

include resets in
/-- Behind initialisation a port has the level of the store, in the HAL and in the cache. -/
theorem levelView_restart (first fresh : VolumePlugin σ) (alive : fresh.persistThreadAlive = true)
    (calm : fresh.plugin.audio.isDuckingInProgress = false) {portType : DsAudioPortType}
    (listed : portType ∈ levelPorts) {handle : Int} {state : σ}
    (port : hal.dsGetAudioPort state portType 0 = .ok handle) :
    let store := (first.reopened fresh).plugin.store
    Calm store (first.restart hal fresh) ∧
      levelView hal values portType (first.restart hal fresh) =
        (some (startupLevel store portType), some (startupLevel store portType)) := by
  intro store
  have begun : Calm store (first.reopened fresh) := ⟨up_reopened first fresh, rfl, calm, alive⟩
  have gained : Calm store ((first.reopened fresh).initializePorts hal .dsSetAudioGain
      audioGainKey "0" (VolumePlugin.applyGain hal) gainPorts) :=
    initializePorts_keeps audioGainKey_ne (Calm store) (fun _ serving => serving.up.ready)
      (fun _ _ _ _ serving => calm_applyGain serving _ _ _) _ _ _ begun
  obtain ⟨serving, view⟩ := levelView_initializeLevels resets gained listed
  rw [resets.ports.fixed _ state, port, if_pos (show (Except.ok handle).toOption.isSome from rfl)]
    at view
  exact initializePorts_keeps audioDelayKey_ne
    (fun state => Calm store state ∧ levelView hal values portType state =
      (some (startupLevel store portType), some (startupLevel store portType)))
    (fun _ holds => holds.1.up.ready)
    (fun _ _ _ _ holds => ⟨calm_applyDelay holds.1 _ _ _,
      (levelView_applyDelay resets _ _ _ _ _).trans holds.2⟩) _ _ _ ⟨serving, view⟩

end Startup

/-! ### What the calls do to a port -/

section Calls

variable {σ : Type} {hal : PortSettingsHal σ} {values : σ → PortValues}
  (resets : hal.ResetsLevels values)

/-- The level that was asked for last is cached, and the HAL has it while the port is audible. -/
structure InEffect (values : σ → PortValues) (portType : DsAudioPortType) (handle : Int)
    (wanted : AudioLevel) (state : VolumePlugin σ) : Prop where
  initialized : state.plugin.audio.isInitialized = true
  calm : state.plugin.audio.isDuckingInProgress = false
  alive : state.persistThreadAlive = true
  cached : state.plugin.audio.audioLevelCache.load portType = some wanted
  level : ((values state.plugin.hal).port handle).Audible portType →
    ((values state.plugin.hal).port handle).level = wanted

/-- Two states that a port cannot tell apart. -/
structure SamePort (values : σ → PortValues) (portType : DsAudioPortType) (handle : Int)
    (before after : VolumePlugin σ) : Prop extends SameService before after where
  calm : after.plugin.audio.isDuckingInProgress = before.plugin.audio.isDuckingInProgress
  cached : after.plugin.audio.audioLevelCache.load portType =
    before.plugin.audio.audioLevelCache.load portType
  port : (values after.plugin.hal).port handle = (values before.plugin.hal).port handle

theorem InEffect.of_samePort {portType : DsAudioPortType} {handle : Int} {wanted : AudioLevel}
    {before after : VolumePlugin σ} (effect : InEffect values portType handle wanted before)
    (same : SamePort values portType handle before after) :
    InEffect values portType handle wanted after where
  initialized := same.initialized.trans effect.initialized
  calm := same.calm.trans effect.calm
  alive := same.alive.trans effect.alive
  cached := same.cached.trans effect.cached
  level := by
    rw [same.port]
    exact effect.level

section Call

variable {portType : DsAudioPortType} (listed : portType ∈ levelPorts) {handle : Int}
  {start : σ} (port : hal.dsGetAudioPort start portType 0 = .ok handle)
  {wanted : AudioLevel} {state : VolumePlugin σ}

theorem applyAudioLevel_of_calm (calm : state.plugin.audio.isDuckingInProgress = false)
    (found : DsAudioPortType) (other : Int) (level : AudioLevel) :
    state.applyAudioLevel hal.toVolumeHal found other level =
      hal.dsSetAudioLevel state.plugin.hal other level := by
  unfold VolumePlugin.applyAudioLevel
  simp [calm]

include resets listed port in
theorem load_store_of_port (plugin : Plugin σ) (cache : AudioLevelCache) (other : Int)
    (level : AudioLevel) :
    (cache.store (plugin.getAudioPortType hal.toAudioHal other) level).load portType =
      if other = handle then some level else cache.load portType := by
  rw [AudioLevelCache.load_store _ _ _ listed]
  simp only [resets.ports.getAudioPortType_eq_iff plugin (mem_portTypes_of_levelPorts listed) port]

/-! #### Calls on other ports -/

theorem port_setLevel_of_ne {held : PortValues} {other : Int} (elsewhere : handle ≠ other)
    (level : AudioLevel) :
    { held with level := Function.update held.level other level }.port handle =
      held.port handle := by
  simp only [PortValues.port, Function.update_of_ne elsewhere]

theorem port_setMuted_of_ne {held : PortValues} {other : Int} (elsewhere : handle ≠ other)
    (mute : Bool) :
    { held with muted := Function.update held.muted other mute }.port handle =
      held.port handle := by
  simp only [PortValues.port, Function.update_of_ne elsewhere]

include resets in
theorem enabled_behind_enable (other : Int) (enable : Bool) (state : σ) :
    (hal.dsEnableAudioPort state other enable).1 = .ok () ∧
      (values (hal.dsEnableAudioPort state other enable).2).enabled other = enable := by
  cases enable with
  | true =>
      obtain ⟨succeeds, after⟩ := resets.enables state other
      rw [after]
      exact ⟨succeeds, Function.update_self _ _ _⟩
  | false =>
      obtain ⟨succeeds, level, after⟩ := resets.disables state other
      rw [after]
      exact ⟨succeeds, Function.update_self _ _ _⟩

include resets in
theorem port_enable_of_ne {state : σ} {other : Int} (elsewhere : handle ≠ other) (enable : Bool) :
    (values (hal.dsEnableAudioPort state other enable).2).port handle =
      (values state).port handle := by
  cases enable with
  | true =>
      rw [(resets.enables state other).2]
      simp only [PortValues.port, Function.update_of_ne elsewhere]
  | false =>
      obtain ⟨-, level, after⟩ := resets.disables state other
      rw [after]
      simp only [PortValues.port, Function.update_of_ne elsewhere]

theorem samePort_persist (state : VolumePlugin σ) (key : Option String) (value : String) :
    SamePort values portType handle state (state.persist key value) := by
  cases key <;> exact ⟨⟨rfl, rfl⟩, rfl, rfl, rfl⟩

theorem samePort_hal (state : VolumePlugin σ) {next : σ} (muteStatus : Bool)
    (same : (values next).port handle = (values state.plugin.hal).port handle) :
    SamePort values portType handle state
      { state with plugin.hal := next, muteStatus := muteStatus } :=
  ⟨⟨rfl, rfl⟩, rfl, rfl, same⟩

theorem SamePort.trans {first second third : VolumePlugin σ}
    (left : SamePort values portType handle first second)
    (right : SamePort values portType handle second third) :
    SamePort values portType handle first third :=
  ⟨⟨right.initialized.trans left.initialized, right.alive.trans left.alive⟩,
    right.calm.trans left.calm, right.cached.trans left.cached, right.port.trans left.port⟩

include resets listed port in
theorem samePort_setAudioLevel (effect : InEffect values portType handle wanted state)
    {other : Int} (elsewhere : handle ≠ other) (level : AudioLevel) :
    SamePort values portType handle state (state.setAudioLevel hal.toVolumeHal other level).2 := by
  have ready : ¬state.plugin.audio.isInitialized = false := by simp [effect.initialized]
  obtain ⟨next, set, after⟩ := exists_setsLevel resets.toStoresVolume state.plugin.hal other level
  unfold VolumePlugin.setAudioLevel
  rw [if_neg ready]
  dsimp only
  rw [applyAudioLevel_of_calm effect.calm, set]
  dsimp only
  rw [if_pos effect.alive]
  exact ⟨⟨rfl, rfl⟩, rfl,
    (load_store_of_port resets listed port _ _ _ _).trans (if_neg (Ne.symm elsewhere)),
    (congrArg (PortValues.port · handle) after).trans (port_setLevel_of_ne elsewhere level)⟩

include resets in
theorem samePort_applyAudioMute (state : VolumePlugin σ) {other : Int} (elsewhere : handle ≠ other)
    (mute : Bool) :
    SamePort values portType handle state
      (state.applyAudioMute hal.toVolumeHal other mute).2 := by
  obtain ⟨next, key, applied, after⟩ :=
    exists_applyAudioMute resets.toStoresVolume state other mute
  rw [applied]
  have same := (congrArg (PortValues.port · handle) after).trans
    (port_setMuted_of_ne elsewhere mute)
  exact (samePort_hal state mute same).trans (samePort_persist _ _ _)

include resets in
theorem samePort_setAudioMute (effect : InEffect values portType handle wanted state)
    {other : Int} (elsewhere : handle ≠ other) (mute : Bool) :
    SamePort values portType handle state (state.setAudioMute hal.toVolumeHal other mute).2 := by
  have ready : ¬state.plugin.audio.isInitialized = false := by simp [effect.initialized]
  unfold VolumePlugin.setAudioMute
  rw [if_neg ready]
  dsimp only
  split_ifs with restores
  · obtain ⟨next, set, after⟩ :=
      exists_setAudioDuckingAudioLevel resets.toStoresVolume state.plugin other
    rw [set]
    dsimp only
    have same := (congrArg (PortValues.port · handle) after).trans
      (port_setLevel_of_ne elsewhere _)
    exact (samePort_hal state state.muteStatus same).trans
      (samePort_applyAudioMute resets { state with plugin.hal := next } elsewhere mute)
  · exact samePort_applyAudioMute resets state elsewhere mute

include resets in
theorem samePort_enableAudioPort (effect : InEffect values portType handle wanted state)
    {other : Int} (elsewhere : handle ≠ other) (enable : Bool) :
    SamePort values portType handle state
      (state.enableAudioPort hal.toVolumeHal other enable).2 := by
  obtain ⟨prepared, restored, afterPrepare, afterRestore, table⟩ :=
    exists_enableAudioPort resets.toStoresVolume effect.initialized other
      (enabled_behind_enable resets other enable)
  obtain ⟨changed, audio⟩ := table.audio
  have kept : (values restored).port handle = (values state.plugin.hal).port handle := by
    calc (values restored).port handle
      _ = (values (hal.dsEnableAudioPort prepared other enable).2).port handle := by
          rw [afterRestore]
          exact congrArg (fun level => HeldPort.mk level _ _) (restoredLevel_of_ne elsewhere _ _ _)
      _ = (values prepared).port handle := port_enable_of_ne resets elsewhere enable
      _ = (values state.plugin.hal).port handle := by
          rw [afterPrepare]
          exact congrArg (fun level => HeldPort.mk level _ _) (preparedLevel_of_ne elsewhere _ _ _)
  unfold VolumePlugin.enableAudioPort
  refine ⟨⟨?_, rfl⟩, ?_, ?_, (congrArg (PortValues.port · handle) table.hal).trans kept⟩ <;>
    dsimp only <;> rw [audio]

/-! #### Calls on the port -/

include resets listed port in
theorem inEffect_setAudioLevel (effect : InEffect values portType handle wanted state)
    (level : AudioLevel) :
    InEffect values portType handle level
      (state.setAudioLevel hal.toVolumeHal handle level).2 := by
  have ready : ¬state.plugin.audio.isInitialized = false := by simp [effect.initialized]
  obtain ⟨next, set, after⟩ := exists_setsLevel resets.toStoresVolume state.plugin.hal handle level
  unfold VolumePlugin.setAudioLevel
  rw [if_neg ready]
  dsimp only
  rw [applyAudioLevel_of_calm effect.calm, set]
  dsimp only
  rw [if_pos effect.alive]
  refine ⟨effect.initialized, effect.calm, effect.alive,
    (load_store_of_port resets listed port _ _ _ _).trans (if_pos rfl), fun _ => ?_⟩
  dsimp only
  rw [after]
  exact Function.update_self _ _ _

include resets in
theorem inEffect_getAudioLevel (effect : InEffect values portType handle wanted state)
    (other : Int) :
    InEffect values portType handle wanted
      (state.getAudioLevel hal.toVolumeHal other).2 := by
  have ready : ¬state.plugin.audio.isInitialized = false := by simp [effect.initialized]
  unfold VolumePlugin.getAudioLevel
  rw [if_neg ready, resets.getsLevel]
  exact ⟨effect.initialized, effect.calm, effect.alive, effect.cached, effect.level⟩

include resets in
/-- Muting keeps what is in effect; unmuting the speaker needs its level to be there already. -/
theorem inEffect_applyAudioMute (effect : InEffect values portType handle wanted state)
    (mute : Bool)
    (there : portType = .speaker → mute = false →
      ((values state.plugin.hal).port handle).level = wanted) :
    InEffect values portType handle wanted
      (state.applyAudioMute hal.toVolumeHal handle mute).2 := by
  obtain ⟨next, key, applied, after⟩ :=
    exists_applyAudioMute resets.toStoresVolume state handle mute
  rw [applied]
  have muted : (values next).port handle =
      { (values state.plugin.hal).port handle with muted := mute } := by
    rw [after]
    simp only [PortValues.port, Function.update_self]
  have inEffect : InEffect values portType handle wanted
      { state with plugin.hal := next, muteStatus := mute } := by
    refine ⟨effect.initialized, effect.calm, effect.alive, effect.cached, fun audible => ?_⟩
    dsimp only at audible ⊢
    rw [muted] at audible ⊢
    by_cases speaker : portType = .speaker
    · exact there speaker (audible.2 speaker)
    · exact effect.level ⟨audible.1, fun same => absurd same speaker⟩
  exact inEffect.of_samePort (samePort_persist _ _ _)

include resets listed port in
theorem inEffect_setAudioMute (effect : InEffect values portType handle wanted state)
    (mute : Bool) :
    InEffect values portType handle wanted
      (state.setAudioMute hal.toVolumeHal handle mute).2 := by
  have ready : ¬state.plugin.audio.isInitialized = false := by simp [effect.initialized]
  have type : state.plugin.getAudioPortType hal.toAudioHal handle = portType :=
    (resets.ports.getAudioPortType_eq_iff state.plugin (mem_portTypes_of_levelPorts listed) port
      handle).mpr rfl
  unfold VolumePlugin.setAudioMute
  rw [if_neg ready]
  dsimp only
  rw [type]
  by_cases restores : mute = false ∧ portType = .speaker
  · obtain ⟨rfl, rfl⟩ := restores
    obtain ⟨next, set, after⟩ :=
      exists_setAudioDuckingAudioLevel resets.toStoresVolume state.plugin handle
    rw [if_pos ⟨rfl, rfl⟩, set]
    dsimp only
    have restored : ((values next).port handle).level = wanted := by
      rw [after, effect.calm]
      exact (Function.update_self _ _ _).trans (Option.some.inj effect.cached)
    have inEffect : InEffect values .speaker handle wanted { state with plugin.hal := next } :=
      ⟨effect.initialized, effect.calm, effect.alive, effect.cached, fun _ => restored⟩
    exact inEffect_applyAudioMute resets inEffect false fun _ _ => restored
  · rw [if_neg restores]
    exact inEffect_applyAudioMute resets effect mute fun speaker unmutes =>
      absurd ⟨unmutes, speaker⟩ restores

include resets listed port in
theorem inEffect_enableAudioPort (effect : InEffect values portType handle wanted state)
    (enable : Bool) :
    InEffect values portType handle wanted
      (state.enableAudioPort hal.toVolumeHal handle enable).2 := by
  have type : state.plugin.getAudioPortType hal.toAudioHal handle = portType :=
    (resets.ports.getAudioPortType_eq_iff state.plugin (mem_portTypes_of_levelPorts listed) port
      handle).mpr rfl
  obtain ⟨prepared, restored, afterPrepare, afterRestore, table⟩ :=
    exists_enableAudioPort resets.toStoresVolume effect.initialized handle
      (enabled_behind_enable resets handle enable)
  obtain ⟨changed, audio⟩ := table.audio
  rw [type] at afterPrepare afterRestore
  have level : ((values restored).port handle).Audible portType →
      ((values restored).port handle).level = wanted := by
    intro audible
    cases enable with
    | false =>
        obtain ⟨enabled, -⟩ := audible
        rw [afterRestore] at enabled
        have disabled := (enabled_behind_enable resets handle false prepared).2
        exact absurd (disabled.symm.trans enabled) (by decide)
    | true =>
        obtain ⟨-, afterEnable⟩ := resets.enables prepared handle
        by_cases speaker : portType = .speaker
        · subst speaker
          have unmuted : (values state.plugin.hal).muted handle = false := by
            have unmuted := audible.2 rfl
            rw [afterRestore, afterEnable, afterPrepare] at unmuted
            exact unmuted
          rw [afterRestore, restoredLevel_speaker, afterEnable, afterPrepare]
          unfold preparedLevel
          rw [if_pos ⟨rfl, by simp [unmuted]⟩, effect.calm]
          exact (Function.update_self _ _ _).trans (Option.some.inj effect.cached)
        · rw [afterRestore]
          unfold restoredLevel
          rw [if_pos (by simpa using speaker), AudioLevelCache.restored_of_ne _ speaker,
            effect.cached]
          exact Function.update_self _ _ _
  unfold VolumePlugin.enableAudioPort
  dsimp only
  refine ⟨?_, ?_, effect.alive, ?_, ?_⟩
  · dsimp only
    rw [audio]
    exact effect.initialized
  · dsimp only
    rw [audio]
    exact effect.calm
  · dsimp only
    rw [audio]
    exact effect.cached
  · dsimp only
    rw [table.hal]
    exact level

include resets listed port in
/-- A call keeps the level that was asked for last in effect, or puts its own there. -/
theorem inEffect_perform (effect : InEffect values portType handle wanted state)
    {call : VolumeCall} (plain : call.ducks = false) :
    InEffect values portType handle ((call.requestedLevel handle).getD wanted)
      (state.perform hal.toVolumeHal call) := by
  cases call with
  | setAudioLevel other level =>
      by_cases own : other = handle
      · subst own
        rw [VolumeCall.requestedLevel, if_pos rfl]
        exact inEffect_setAudioLevel resets listed port effect level
      · rw [VolumeCall.requestedLevel, if_neg own]
        exact effect.of_samePort
          (samePort_setAudioLevel resets listed port effect (Ne.symm own) level)
  | getAudioLevel other => exact inEffect_getAudioLevel resets effect other
  | setAudioMute other mute =>
      by_cases own : other = handle
      · subst own
        exact inEffect_setAudioMute resets listed port effect mute
      · exact effect.of_samePort (samePort_setAudioMute resets effect (Ne.symm own) mute)
  | enableAudioPort other enable =>
      by_cases own : other = handle
      · subst own
        exact inEffect_enableAudioPort resets listed port effect enable
      · exact effect.of_samePort (samePort_enableAudioPort resets effect (Ne.symm own) enable)
  | setAudioDucking _ _ _ _ => simp [VolumeCall.ducks] at plain

include resets listed port in
theorem inEffect_calls (effect : InEffect values portType handle wanted state)
    {calls : List VolumeCall} (plain : ∀ call ∈ calls, call.ducks = false) :
    InEffect values portType handle
      ((lastOf (VolumeCall.requestedLevel handle) calls).getD wanted)
      (calls.foldl (VolumePlugin.perform hal.toVolumeHal) state) := by
  induction calls using List.reverseRecOn with
  | nil => exact effect
  | append_singleton calls call ih =>
      have before := ih fun other member => plain other (List.mem_append_left _ member)
      have behind := inEffect_perform resets listed port before (plain call (by simp))
      rw [List.foldl_append, lastOf_snoc, Option.getD_or]
      exact behind

end Call

include resets in
/-- Initialisation puts the level it gives a port in effect. -/
theorem inEffect_restart (first fresh : VolumePlugin σ) (alive : fresh.persistThreadAlive = true)
    (calm : fresh.plugin.audio.isDuckingInProgress = false) {portType : DsAudioPortType}
    (listed : portType ∈ levelPorts) {handle : Int} {state : σ}
    (port : hal.dsGetAudioPort state portType 0 = .ok handle) :
    let begun := first.restart hal fresh
    InEffect values portType handle ((values begun.plugin.hal).level handle) begun := by
  intro begun
  obtain ⟨serving, view⟩ := levelView_restart resets first fresh alive calm listed port
  unfold levelView at view
  rw [resets.ports.fixed _ state, port, Prod.mk.injEq] at view
  exact ⟨serving.up.initialized, serving.calm, serving.alive, view.2.trans view.1.symm,
    fun _ => rfl⟩

include resets in
/-- Over any run of calls without ducking an audible port has the level of the last call that set
it, or the one that initialisation gave it. -/
theorem level_of_audible_port (first fresh : VolumePlugin σ)
    (alive : fresh.persistThreadAlive = true)
    (calm : fresh.plugin.audio.isDuckingInProgress = false) (calls : List VolumeCall)
    (plain : ∀ call ∈ calls, call.ducks = false) :
    let begun := first.restart hal fresh
    let after := calls.foldl (VolumePlugin.perform hal.toVolumeHal) begun
    ∀ portType ∈ levelPorts, ∀ handle,
      hal.dsGetAudioPort after.plugin.hal portType 0 = .ok handle →
        ((values after.plugin.hal).port handle).Audible portType →
          ((values after.plugin.hal).port handle).level =
            (lastOf (VolumeCall.requestedLevel handle) calls).getD
              ((values begun.plugin.hal).port handle).level := by
  intro begun after portType listed handle port audible
  exact (inEffect_calls resets listed port
    (inEffect_restart resets first fresh alive calm listed port) plain).level audible

end Calls

namespace ForgetfulHal

/-- The values by handle; a port that is disabled is left at level 7. -/
def hal : PortSettingsHal PortValues where
  dsGetAudioPort _ type _ :=
    match type with
    | .hdmi => .ok 1
    | .spdif => .ok 2
    | .speaker => .ok 3
    | .headphone => .ok 4
    | _ => .error .operationNotSupported
  dsIsAudioPortEnabled held handle := .ok (held.enabled handle)
  dsIsAudioMute held handle := .ok (held.muted handle)
  dsEnableAudioPort held handle enable :=
    (.ok (), { held with
      level := if enable then held.level else Function.update held.level handle 7
      enabled := Function.update held.enabled handle enable })
  dsSetAudioLevel held handle level :=
    (.ok (), { held with level := Function.update held.level handle level })
  dsSetAudioDelay held _ _ := (.ok (), held)
  dsGetAudioLevel held handle := .ok (held.level handle)
  dsSetAudioMute held handle mute :=
    (.ok (), { held with muted := Function.update held.muted handle mute })
  resolves _ := true
  dsSetAudioGain held _ _ := (.ok (), held)
  dsAudioOutIsConnected _ _ := .ok true

theorem resets : hal.ResetsLevels id where
  ports := {
    fixed _ _ := rfl
    narrow := by
      intro held type handle port
      cases type <;> cases port <;> decide
    distinct := by
      intro held type other handle port same
      cases type <;> cases port <;> cases other <;> cases same <;> rfl }
  getsLevel _ _ := rfl
  getsMute _ _ := rfl
  getsEnabled _ _ := rfl
  setsLevel _ _ _ := ⟨rfl, rfl⟩
  setsMute _ _ _ := ⟨rfl, rfl⟩
  delays _ _ _ := rfl
  resolved := rfl
  enables _ _ := ⟨rfl, rfl⟩
  disables _ _ := ⟨rfl, 7, rfl⟩

/-- A process that has started nothing yet. -/
def first : VolumePlugin PortValues where
  plugin := {
    hal := ⟨fun _ => 0, fun _ => false, fun _ => false⟩
    audio := ⟨false, false, 0, ⟨0, 0, 0, 0⟩, fun _ => false⟩
    store := .ofStoreFile "/opt/persistent/ds/hostData"
    files := fun _ => .absent }
  muteStatus := false
  lastVolumeLevel := 0
  persistThreadAlive := true

/-- The speaker is disabled while it is muted, and enabled before it is unmuted. -/
def calls : List VolumeCall :=
  [.setAudioLevel 3 (25 / 2), .setAudioMute 3 true, .enableAudioPort 3 false,
    .getAudioLevel 3, .enableAudioPort 3 true, .setAudioLevel 1 60, .setAudioMute 3 false]

end ForgetfulHal

theorem level_of_audible_port_speaker :
    (((ForgetfulHal.calls.foldl (VolumePlugin.perform ForgetfulHal.hal.toVolumeHal)
      (ForgetfulHal.first.restart ForgetfulHal.hal ForgetfulHal.first)).plugin.hal).port 3).level =
        25 / 2 :=
  level_of_audible_port ForgetfulHal.resets ForgetfulHal.first ForgetfulHal.first rfl rfl
    ForgetfulHal.calls (by decide) .speaker (by decide) 3 rfl ⟨rfl, fun _ => rfl⟩

end DeviceSettings.Audio
