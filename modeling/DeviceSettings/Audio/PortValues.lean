import DeviceSettings.Audio.Volume

/-!
# What the HAL stores for a port

Level, mute state and enabled state under each handle, and what the parts of the volume calls
do to them. Nothing here depends on what the HAL does to a level when its port is disabled.
-/

namespace DeviceSettings.Audio

open DeviceSettings.Std
open DeviceSettings.Persistence

/-- What the HAL stores for its ports. -/
structure PortValues where
  level : Int → AudioLevel
  muted : Int → Bool
  enabled : Int → Bool

/-- The HAL reports what it stores; the calls for level and mute state succeed and store their
argument under their handle. -/
structure VolumeHal.StoresVolume {σ : Type} (hal : VolumeHal σ) (values : σ → PortValues) :
    Prop where
  ports : hal.DistinctPorts
  getsLevel : ∀ state handle, hal.dsGetAudioLevel state handle = .ok ((values state).level handle)
  getsMute : ∀ state handle, hal.dsIsAudioMute state handle = .ok ((values state).muted handle)
  getsEnabled : ∀ state handle,
    hal.dsIsAudioPortEnabled state handle = .ok ((values state).enabled handle)
  setsLevel : ∀ state handle level, (hal.dsSetAudioLevel state handle level).1 = .ok () ∧
    values (hal.dsSetAudioLevel state handle level).2 =
      { values state with level := Function.update (values state).level handle level }
  setsMute : ∀ state handle mute, (hal.dsSetAudioMute state handle mute).1 = .ok () ∧
    values (hal.dsSetAudioMute state handle mute).2 =
      { values state with muted := Function.update (values state).muted handle mute }
  delays : ∀ state handle delay, values (hal.dsSetAudioDelay state handle delay).2 = values state

/-- Every call succeeds and stores its argument under its handle. -/
structure VolumeHal.Stores {σ : Type} (hal : VolumeHal σ) (values : σ → PortValues) : Prop where
  ports : hal.DistinctPorts
  getsLevel : ∀ state handle, hal.dsGetAudioLevel state handle = .ok ((values state).level handle)
  getsMute : ∀ state handle, hal.dsIsAudioMute state handle = .ok ((values state).muted handle)
  getsEnabled : ∀ state handle,
    hal.dsIsAudioPortEnabled state handle = .ok ((values state).enabled handle)
  setsLevel : ∀ state handle level, (hal.dsSetAudioLevel state handle level).1 = .ok () ∧
    values (hal.dsSetAudioLevel state handle level).2 =
      { values state with level := Function.update (values state).level handle level }
  setsMute : ∀ state handle mute, (hal.dsSetAudioMute state handle mute).1 = .ok () ∧
    values (hal.dsSetAudioMute state handle mute).2 =
      { values state with muted := Function.update (values state).muted handle mute }
  enables : ∀ state handle enable, (hal.dsEnableAudioPort state handle enable).1 = .ok () ∧
    values (hal.dsEnableAudioPort state handle enable).2 =
      { values state with enabled := Function.update (values state).enabled handle enable }
  delays : ∀ state handle delay, values (hal.dsSetAudioDelay state handle delay).2 = values state

theorem VolumeHal.Stores.volume {σ : Type} {hal : VolumeHal σ} {values : σ → PortValues}
    (stores : hal.Stores values) : hal.StoresVolume values :=
  ⟨stores.ports, stores.getsLevel, stores.getsMute, stores.getsEnabled, stores.setsLevel,
    stores.setsMute, stores.delays⟩

/-- What no call changes. -/
structure SameService {σ : Type} (before after : VolumePlugin σ) : Prop where
  initialized : after.plugin.audio.isInitialized = before.plugin.audio.isInitialized
  alive : after.persistThreadAlive = before.persistThreadAlive

theorem sameService_persist {σ : Type} (state : VolumePlugin σ) (key : Option String)
    (value : String) : SameService state (state.persist key value) := by
  cases key <;> exact ⟨rfl, rfl⟩

section Parts

variable {σ : Type} {hal : VolumeHal σ} {values : σ → PortValues}
  (stores : hal.StoresVolume values)

include stores in
/-- A level set on a port. -/
theorem exists_setsLevel (state : σ) (handle : Int) (level : AudioLevel) :
    ∃ next, hal.dsSetAudioLevel state handle level = (.ok (), next) ∧
      values next = { values state with
        level := Function.update (values state).level handle level } :=
  have set := stores.setsLevel state handle level
  ⟨_, Prod.ext set.1 rfl, set.2⟩

include stores in
/-- The level that unmuting and enabling the speaker bring back. -/
theorem exists_setAudioDuckingAudioLevel (plugin : Plugin σ) (handle : Int) :
    ∃ next, plugin.setAudioDuckingAudioLevel hal.toAudioHal handle =
        (.ok (), { plugin with hal := next }) ∧
      values next = { values plugin.hal with
        level := Function.update (values plugin.hal).level handle
          (if plugin.audio.isDuckingInProgress then
            (plugin.audio.volumeDuckingLevel : AudioLevel)
          else plugin.audio.audioLevelCache.speaker) } := by
  unfold Plugin.setAudioDuckingAudioLevel
  obtain ⟨next, set, after⟩ := exists_setsLevel stores plugin.hal handle
    (if plugin.audio.isDuckingInProgress then (plugin.audio.volumeDuckingLevel : AudioLevel)
    else plugin.audio.audioLevelCache.speaker)
  dsimp only
  rw [set]
  exact ⟨next, rfl, after⟩

include stores in
theorem exists_applyAudioMute (state : VolumePlugin σ) (handle : Int) (mute : Bool) :
    ∃ next key, (state.applyAudioMute hal handle mute).2 =
        { state with plugin.hal := next, muteStatus := mute }.persist key
          (if mute then "TRUE" else "FALSE") ∧
      values next = { values state.plugin.hal with
        muted := Function.update (values state.plugin.hal).muted handle mute } := by
  obtain ⟨succeeds, after⟩ := stores.setsMute state.plugin.hal handle mute
  unfold VolumePlugin.applyAudioMute
  rw [show hal.dsSetAudioMute state.plugin.hal handle mute = (.ok (), _) from
    Prod.ext succeeds rfl]
  exact ⟨_, _, rfl, after⟩

/-- All that the end of `EnableAudioPort` changes is its table, the delay and the loaded store. -/
structure TableOnly (values : σ → PortValues) (before after : Plugin σ) : Prop where
  hal : values after.hal = values before.hal
  audio : ∃ table, after.audio = { before.audio with audioPortEnabled := table }

include stores in
theorem tableOnly_trackAudioPort (plugin : Plugin σ) (portType : DsAudioPortType) (handle : Int)
    (enable : Bool) :
    TableOnly values plugin (plugin.trackAudioPort hal.toAudioHal portType handle enable) := by
  have loaded : ∀ plugin : Plugin σ, ∃ store,
      (plugin.getAudioDelayInternal portType).2 = { plugin with store := store } := by
    intro plugin
    unfold Plugin.getAudioDelayInternal
    dsimp only
    split
    · exact ⟨_, Plugin.readProperty_snd _ _ _⟩
    · exact ⟨_, rfl⟩
  unfold Plugin.trackAudioPort
  dsimp only
  split_ifs
  · exact ⟨rfl, _, rfl⟩
  · obtain ⟨store, same⟩ := loaded { plugin with
      audio.audioPortEnabled := Function.update plugin.audio.audioPortEnabled portType enable }
    rw [same]
    exact ⟨stores.delays _ _ _, _, rfl⟩
  · exact ⟨rfl, _, rfl⟩

/-- The levels when the speaker is prepared: that of an enabled speaker comes back unless the
speaker is muted. -/
def preparedLevel (portType : DsAudioPortType) (handle : Int) (enable : Bool)
    (audio : AudioImpl) (held : PortValues) : Int → AudioLevel :=
  if portType = .speaker ∧ (enable && !held.muted handle) = true then
    Function.update held.level handle
      (if audio.isDuckingInProgress then (audio.volumeDuckingLevel : AudioLevel)
      else audio.audioLevelCache.speaker)
  else held.level

theorem preparedLevel_of_ne {portType : DsAudioPortType} {handle other : Int}
    (elsewhere : other ≠ handle) (enable : Bool) (audio : AudioImpl) (held : PortValues) :
    preparedLevel portType handle enable audio held other = held.level other := by
  unfold preparedLevel
  by_cases restores : portType = .speaker ∧ (enable && !held.muted handle) = true
  · rw [if_pos restores]
    exact Function.update_of_ne elsewhere _ _
  · rw [if_neg restores]

include stores in
theorem exists_prepareSpeaker (plugin : Plugin σ) (portType : DsAudioPortType) (handle : Int)
    (enable : Bool) :
    ∃ next, plugin.prepareSpeaker hal.toAudioHal portType handle enable =
        (.ok (), { plugin with hal := next }) ∧
      values next = { values plugin.hal with
        level := preparedLevel portType handle enable plugin.audio (values plugin.hal) } := by
  unfold Plugin.prepareSpeaker preparedLevel
  simp only [stores.getsMute]
  by_cases own : portType = .speaker
  · by_cases restores : (enable && !(values plugin.hal).muted handle) = true
    · rw [if_pos own, if_pos restores, if_pos ⟨own, restores⟩]
      exact exists_setAudioDuckingAudioLevel stores plugin handle
    · rw [if_pos own, if_neg restores, if_neg fun both => restores both.2]
      exact ⟨plugin.hal, rfl, rfl⟩
  · rw [if_neg own, if_neg fun both => own both.1]
    exact ⟨plugin.hal, rfl, rfl⟩

/-- The levels behind the call of the HAL: that of another enabled port comes back where it is
cached. -/
def restoredLevel (portType : DsAudioPortType) (handle : Int) (enable : Bool)
    (cache : AudioLevelCache) (level : Int → AudioLevel) : Int → AudioLevel :=
  if enable && portType != .speaker then
    ((cache.restored portType).map (Function.update level handle)).getD level
  else level

@[simp] theorem restoredLevel_speaker (handle : Int) (enable : Bool) (cache : AudioLevelCache)
    (level : Int → AudioLevel) : restoredLevel .speaker handle enable cache level = level := by
  simp [restoredLevel]

theorem restoredLevel_of_ne {portType : DsAudioPortType} {handle other : Int}
    (elsewhere : other ≠ handle) (enable : Bool) (cache : AudioLevelCache)
    (level : Int → AudioLevel) :
    restoredLevel portType handle enable cache level other = level other := by
  unfold restoredLevel
  split_ifs
  · cases cache.restored portType with
    | none => rfl
    | some restored => exact Function.update_of_ne elsewhere _ _
  · rfl

include stores in
theorem exists_restoreAudioLevel (plugin : Plugin σ) (portType : DsAudioPortType) (handle : Int)
    (enable : Bool) :
    ∃ next, plugin.restoreAudioLevel hal.toAudioHal portType handle enable =
        { plugin with hal := next } ∧
      values next = { values plugin.hal with
        level := restoredLevel portType handle enable plugin.audio.audioLevelCache
          (values plugin.hal).level } := by
  unfold Plugin.restoreAudioLevel restoredLevel
  split_ifs with others
  · cases plugin.audio.audioLevelCache.restored portType with
    | none => exact ⟨plugin.hal, rfl, rfl⟩
    | some restored => exact ⟨_, rfl, (stores.setsLevel _ _ _).2⟩
  · exact ⟨plugin.hal, rfl, rfl⟩

include stores in
/-- `EnableAudioPort` on a HAL that enables and disables its ports: the speaker is prepared, the
HAL is called, and the level of another port is restored. -/
theorem exists_enableAudioPort {plugin : Plugin σ} (initialized : plugin.audio.isInitialized = true)
    (handle : Int) {enable : Bool}
    (enables : ∀ state, (hal.dsEnableAudioPort state handle enable).1 = .ok () ∧
      (values (hal.dsEnableAudioPort state handle enable).2).enabled handle = enable) :
    let portType := plugin.getAudioPortType hal.toAudioHal handle
    ∃ prepared restored,
      values prepared = { values plugin.hal with
        level := preparedLevel portType handle enable plugin.audio (values plugin.hal) } ∧
      values restored = { values (hal.dsEnableAudioPort prepared handle enable).2 with
        level := restoredLevel portType handle enable plugin.audio.audioLevelCache
          (values (hal.dsEnableAudioPort prepared handle enable).2).level } ∧
      TableOnly values { plugin with hal := restored }
        (plugin.enableAudioPort hal.toAudioHal handle enable).2 := by
  intro portType
  obtain ⟨prepared, preparing, afterPrepare⟩ :=
    exists_prepareSpeaker stores plugin portType handle enable
  obtain ⟨succeeds, reached⟩ := enables prepared
  obtain ⟨restored, restoring, afterRestore⟩ := exists_restoreAudioLevel stores
    { plugin with hal := (hal.dsEnableAudioPort prepared handle enable).2 } portType handle enable
  have reported : hal.dsIsAudioPortEnabled restored handle = .ok enable := by
    rw [stores.getsEnabled, afterRestore]
    exact congrArg Except.ok reached
  refine ⟨prepared, restored, afterPrepare, afterRestore, ?_⟩
  rw [Plugin.enableAudioPort_eq_track initialized preparing succeeds restoring reported]
  exact tableOnly_trackAudioPort stores { plugin with hal := restored } portType handle enable

end Parts

end DeviceSettings.Audio
