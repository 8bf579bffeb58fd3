import DeviceSettings.Audio.Ports

/-!
# What enabling an audio port leaves behind

The operations of `dAudioImpl` on a HAL that stores the enabled state per port: which
part of the HAL state an operation moves, and that the settings it reads stay as they are.
-/

namespace DeviceSettings.Audio

open DeviceSettings.Std
open DeviceSettings.Persistence

variable {σ β : Type}

/-- The level and delay calls of the HAL leave this part of its state alone. -/
structure AudioHal.KeptByTuning (hal : AudioHal σ) (view : σ → β) : Prop where
  level : ∀ state handle level, view (hal.dsSetAudioLevel state handle level).2 = view state
  delay : ∀ state handle delay, view (hal.dsSetAudioDelay state handle delay).2 = view state

/-- `dsEnableAudioPort` and `dsIsAudioPortEnabled` store and report one state per port and
always succeed; the ports themselves are fixed. -/
structure AudioHal.StoresPorts (hal : AudioHal σ) (enabled : σ → Int → Bool) : Prop
    extends AudioHal.KeptByTuning hal enabled where
  fixed : ∀ state other, hal.dsGetAudioPort state = hal.dsGetAudioPort other
  reports : ∀ state handle, hal.dsIsAudioPortEnabled state handle = .ok (enabled state handle)
  succeeds : ∀ state handle enable, (hal.dsEnableAudioPort state handle enable).1 = .ok ()
  stores : ∀ state handle enable, enabled (hal.dsEnableAudioPort state handle enable).2 =
    Function.update (enabled state) handle enable

/-- No audio call moves this part of the HAL state. -/
structure AudioHal.Keeps (hal : AudioHal σ) (view : σ → β) : Prop
    extends AudioHal.KeptByTuning hal view where
  enable : ∀ state handle enable,
    view (hal.dsEnableAudioPort state handle enable).2 = view state

namespace Plugin

/-- The plugin has come up: the HAL is initialised and the store is loaded. -/
structure Up (plugin : Plugin σ) : Prop where
  initialized : plugin.audio.isInitialized = true
  ready : plugin.store.isInitialized = true

theorem Up.withHal {plugin : Plugin σ} (up : plugin.Up) (state : σ) :
    Up { plugin with hal := state } :=
  ⟨up.initialized, up.ready⟩

/-- The operations here neither write a property nor leave the initialised state. A store
that is loaded in between reads the same properties. -/
structure SameSettings (before after : Plugin σ) : Prop where
  initialized : after.audio.isInitialized = before.audio.isInitialized
  files : after.files = before.files
  store : after.store.ensureInitialized before.files = before.store.ensureInitialized before.files

theorem SameSettings.refl (plugin : Plugin σ) : SameSettings plugin plugin :=
  ⟨rfl, rfl, rfl⟩

theorem SameSettings.trans {first second third : Plugin σ} (left : SameSettings first second)
    (right : SameSettings second third) : SameSettings first third := by
  refine ⟨right.initialized.trans left.initialized, right.files.trans left.files, ?_⟩
  have same := right.store
  rw [left.files] at same
  exact same.trans left.store

/-- Only the HAL has moved. -/
theorem SameSettings.ofHal (plugin : Plugin σ) (state : σ) :
    SameSettings plugin { plugin with hal := state } :=
  ⟨rfl, rfl, rfl⟩

/-! ### Properties -/

theorem readProperty_snd (plugin : Plugin σ) (key fallback : String) :
    (plugin.readProperty key fallback).2 =
      { plugin with store := plugin.store.ensureInitialized plugin.files } := by
  have stored := plugin.store.getProperty_snd plugin.files key
  unfold readProperty
  split
  next found =>
      rw [found] at stored
      rw [← stored]
  next store missing =>
      rw [missing] at stored
      have defaults := store.getDefaultProperty_snd plugin.files key
      rw [show store = plugin.store.ensureInitialized plugin.files from stored,
        HostPersistence.ensureInitialized_idem] at defaults
      split <;> rename_i found <;> rw [show store = _ from stored] at found <;>
        rw [found] at defaults <;> rw [← defaults]

/-- The property, else the default, else the constant. -/
theorem readProperty_fst (plugin : Plugin σ) {key : String} (named : key ≠ "")
    (fallback : String) :
    (plugin.readProperty key fallback).1 =
      (((plugin.store.ensureInitialized plugin.files).properties.find? key).or
        ((plugin.store.ensureInitialized plugin.files).defaultProperties.find? key)).getD
          fallback := by
  unfold readProperty HostPersistence.getProperty
  simp only [if_neg named]
  cases (plugin.store.ensureInitialized plugin.files).properties.find? key with
  | some value => rfl
  | none =>
      simp only [HostPersistence.getDefaultProperty, if_neg named,
        HostPersistence.ensureInitialized_idem]
      cases (plugin.store.ensureInitialized plugin.files).defaultProperties.find? key <;> rfl

theorem readProperty_of_ready {plugin : Plugin σ} (ready : plugin.store.isInitialized = true)
    {key : String} (named : key ≠ "") (fallback : String) :
    plugin.readProperty key fallback =
      (((plugin.store.properties.find? key).or
        (plugin.store.defaultProperties.find? key)).getD fallback, plugin) := by
  apply Prod.ext
  · rw [readProperty_fst plugin named, HostPersistence.ensureInitialized_of_ready ready]
  · rw [readProperty_snd, HostPersistence.ensureInitialized_of_ready ready]

theorem sameSettings_readProperty (plugin : Plugin σ) (key fallback : String) :
    SameSettings plugin (plugin.readProperty key fallback).2 := by
  rw [readProperty_snd]
  exact ⟨rfl, rfl, HostPersistence.ensureInitialized_idem _ _⟩

@[simp] theorem readProperty_hal (plugin : Plugin σ) (key fallback : String) :
    (plugin.readProperty key fallback).2.hal = plugin.hal := by
  rw [readProperty_snd]

theorem isEnabledAudioPortKey_ne (portName : String) : isEnabledAudioPortKey portName ≠ "" := by
  intro empty
  have lengths := congrArg String.length empty
  rw [isEnabledAudioPortKey, String.length_append, String.length_append] at lengths
  have front : "audio.".length = 6 := rfl
  have none : "".length = 0 := rfl
  omega

/-- The user setting is read alike wherever the settings are the same. -/
theorem getAudioEnablePersist_congr {before after : Plugin σ} (same : SameSettings before after)
    (portName : String) :
    (after.getAudioEnablePersist portName).1 = (before.getAudioEnablePersist portName).1 := by
  unfold getAudioEnablePersist
  rw [same.initialized]
  split_ifs
  · rfl
  · simp only [readProperty_fst _ (isEnabledAudioPortKey_ne portName), same.files, same.store]

/-! ### The steps of `EnableAudioPort` -/

variable (hal : AudioHal σ)

theorem sameSettings_setAudioDuckingAudioLevel (plugin : Plugin σ) (handle : Int) :
    SameSettings plugin (plugin.setAudioDuckingAudioLevel hal handle).2 := by
  unfold setAudioDuckingAudioLevel
  dsimp only
  split <;> exact SameSettings.ofHal plugin _

theorem sameSettings_prepareSpeaker (plugin : Plugin σ) (portType : DsAudioPortType)
    (handle : Int) (enable : Bool) :
    SameSettings plugin (plugin.prepareSpeaker hal portType handle enable).2 := by
  unfold prepareSpeaker
  dsimp only
  split_ifs
  · exact sameSettings_setAudioDuckingAudioLevel hal plugin handle
  · exact SameSettings.refl plugin
  · exact SameSettings.refl plugin

theorem sameSettings_restoreAudioLevel (plugin : Plugin σ) (portType : DsAudioPortType)
    (handle : Int) (enable : Bool) :
    SameSettings plugin (plugin.restoreAudioLevel hal portType handle enable) := by
  unfold restoreAudioLevel
  split_ifs
  · split
    · exact SameSettings.ofHal plugin _
    · exact SameSettings.refl plugin
  · exact SameSettings.refl plugin

theorem sameSettings_getAudioDelayInternal (plugin : Plugin σ) (portType : DsAudioPortType) :
    SameSettings plugin (plugin.getAudioDelayInternal portType).2 := by
  unfold getAudioDelayInternal
  dsimp only
  split
  · exact sameSettings_readProperty plugin _ _
  · exact SameSettings.refl plugin

theorem sameSettings_audioPortEnabled (plugin : Plugin σ)
    (audioPortEnabled : DsAudioPortType → Bool) :
    SameSettings plugin { plugin with audio.audioPortEnabled := audioPortEnabled } :=
  ⟨rfl, rfl, rfl⟩

theorem sameSettings_trackAudioPort (plugin : Plugin σ) (portType : DsAudioPortType)
    (handle : Int) (enable : Bool) :
    SameSettings plugin (plugin.trackAudioPort hal portType handle enable) := by
  have tracked := sameSettings_audioPortEnabled plugin
    (Function.update plugin.audio.audioPortEnabled portType enable)
  unfold trackAudioPort
  dsimp only
  split_ifs
  · exact SameSettings.refl plugin
  · exact (tracked.trans (sameSettings_getAudioDelayInternal _ portType)).trans
      (SameSettings.ofHal _ _)
  · exact tracked

theorem sameSettings_verifyAudioPort (plugin : Plugin σ) (portType : DsAudioPortType)
    (handle : Int) (enable : Bool) :
    SameSettings plugin (plugin.verifyAudioPort hal portType handle enable).2 := by
  unfold verifyAudioPort
  split
  · split_ifs
    · exact SameSettings.refl plugin
    · exact sameSettings_trackAudioPort hal plugin portType handle enable
  · exact SameSettings.refl plugin

/-- Enabling or disabling a port changes no setting. -/
theorem sameSettings_enableAudioPort (plugin : Plugin σ) (handle : Int) (enable : Bool) :
    SameSettings plugin (plugin.enableAudioPort hal handle enable).2 := by
  unfold enableAudioPort
  split_ifs
  · exact SameSettings.refl plugin
  · have prepared := sameSettings_prepareSpeaker hal plugin (plugin.getAudioPortType hal handle)
      handle enable
    dsimp only
    split
    next found =>
        rw [found] at prepared
        exact prepared
    next found =>
        rw [found] at prepared
        split
        · exact prepared.trans (SameSettings.ofHal _ _)
        · exact ((prepared.trans (SameSettings.ofHal _ _)).trans
            (sameSettings_restoreAudioLevel hal _ _ _ _)).trans
            (sameSettings_verifyAudioPort hal _ _ _ _)

variable {hal} in
/-- `EnableAudioPort` where nothing fails: it ends in its table and the port's delay. -/
theorem enableAudioPort_eq_track {plugin : Plugin σ}
    (initialized : plugin.audio.isInitialized = true) {handle : Int} {enable : Bool}
    {prepared restored : σ}
    (preparing : plugin.prepareSpeaker hal (plugin.getAudioPortType hal handle) handle enable =
      (.ok (), { plugin with hal := prepared }))
    (succeeds : (hal.dsEnableAudioPort prepared handle enable).1 = .ok ())
    (restoring : { plugin with hal := (hal.dsEnableAudioPort prepared handle enable).2
      }.restoreAudioLevel hal (plugin.getAudioPortType hal handle) handle enable =
        { plugin with hal := restored })
    (reported : hal.dsIsAudioPortEnabled restored handle = .ok enable) :
    (plugin.enableAudioPort hal handle enable).2 =
      { plugin with hal := restored }.trackAudioPort hal (plugin.getAudioPortType hal handle)
        handle enable := by
  have ready : ¬plugin.audio.isInitialized = false := by simp [initialized]
  unfold enableAudioPort
  rw [if_neg ready]
  dsimp only
  rw [preparing]
  dsimp only
  rw [show hal.dsEnableAudioPort prepared handle enable = (.ok (), _) from Prod.ext succeeds rfl]
  dsimp only
  rw [restoring]
  unfold verifyAudioPort
  dsimp only
  rw [reported]
  exact congrArg Prod.snd (if_neg (not_not.mpr rfl))

section Kept

variable {hal} {view : σ → β} (kept : hal.KeptByTuning view)
include kept

theorem setAudioDuckingAudioLevel_view (plugin : Plugin σ) (handle : Int) :
    view (plugin.setAudioDuckingAudioLevel hal handle).2.hal = view plugin.hal := by
  unfold setAudioDuckingAudioLevel
  dsimp only
  have same := kept.level plugin.hal handle
    (if plugin.audio.isDuckingInProgress then plugin.audio.volumeDuckingLevel
      else plugin.audio.audioLevelCache.speaker)
  split <;> rename_i called <;> rw [called] at same <;> exact same

theorem prepareSpeaker_view (plugin : Plugin σ) (portType : DsAudioPortType) (handle : Int)
    (enable : Bool) :
    view (plugin.prepareSpeaker hal portType handle enable).2.hal = view plugin.hal := by
  unfold prepareSpeaker
  dsimp only
  split_ifs
  · exact setAudioDuckingAudioLevel_view kept plugin handle
  · rfl
  · rfl

theorem restoreAudioLevel_view (plugin : Plugin σ) (portType : DsAudioPortType) (handle : Int)
    (enable : Bool) :
    view (plugin.restoreAudioLevel hal portType handle enable).hal = view plugin.hal := by
  unfold restoreAudioLevel
  split_ifs
  · split
    · exact kept.level plugin.hal handle _
    · rfl
  · rfl

theorem trackAudioPort_view (plugin : Plugin σ) (portType : DsAudioPortType) (handle : Int)
    (enable : Bool) :
    view (plugin.trackAudioPort hal portType handle enable).hal = view plugin.hal := by
  unfold trackAudioPort
  dsimp only
  split_ifs
  · rfl
  · unfold setAudioDelayInternal
    rw [kept.delay]
    unfold getAudioDelayInternal
    dsimp only
    split
    · rw [readProperty_hal]
    · rfl
  · rfl

theorem verifyAudioPort_view (plugin : Plugin σ) (portType : DsAudioPortType) (handle : Int)
    (enable : Bool) :
    view (plugin.verifyAudioPort hal portType handle enable).2.hal = view plugin.hal := by
  unfold verifyAudioPort
  split
  · split_ifs
    · rfl
    · exact trackAudioPort_view kept plugin portType handle enable
  · rfl

/-- `EnableAudioPort` moves the HAL by its `dsEnableAudioPort` alone, and not at all when the
speaker's level cannot be set first. -/
theorem enableAudioPort_view (plugin : Plugin σ) (handle : Int) (enable : Bool) :
    view (plugin.enableAudioPort hal handle enable).2.hal = view plugin.hal ∨
      ∃ state, view state = view plugin.hal ∧
        view (plugin.enableAudioPort hal handle enable).2.hal =
          view (hal.dsEnableAudioPort state handle enable).2 := by
  unfold enableAudioPort
  split_ifs
  · exact Or.inl rfl
  · have prepared := prepareSpeaker_view kept plugin (plugin.getAudioPortType hal handle) handle
      enable
    dsimp only
    split
    next found =>
        rw [found] at prepared
        exact Or.inl prepared
    next middle found =>
        rw [found] at prepared
        refine Or.inr ⟨middle.hal, prepared, ?_⟩
        split
        next called => rw [called]
        next called =>
            rw [verifyAudioPort_view kept, restoreAudioLevel_view kept, called]

end Kept

end Plugin

section Stores

variable {hal : AudioHal σ} {enabled : σ → Int → Bool} (stores : hal.StoresPorts enabled)
include stores

/-- Disabling a port succeeds in the HAL whatever kind of port it is. -/
theorem Plugin.enableAudioPort_false {plugin : Plugin σ}
    (ready : plugin.audio.isInitialized = true) (handle : Int) :
    enabled (plugin.enableAudioPort hal handle false).2.hal =
      Function.update (enabled plugin.hal) handle false := by
  have calm : plugin.prepareSpeaker hal (plugin.getAudioPortType hal handle) handle false =
      (.ok (), plugin) := by
    unfold prepareSpeaker
    simp
  have notIdle : ¬plugin.audio.isInitialized = false := by simp [ready]
  have called := stores.succeeds plugin.hal handle false
  have stored := stores.stores plugin.hal handle false
  unfold enableAudioPort
  simp only [if_neg notIdle, calm]
  split
  next failed => simp [failed] at called
  next done =>
      rw [done] at stored
      rw [verifyAudioPort_view stores.toKeptByTuning,
        restoreAudioLevel_view stores.toKeptByTuning]
      exact stored

/-- Enabling a port that the HAL reports enabled moves no port. -/
theorem Plugin.enableAudioPort_true {plugin : Plugin σ} {handle : Int}
    (already : enabled plugin.hal handle = true) :
    enabled (plugin.enableAudioPort hal handle true).2.hal = enabled plugin.hal := by
  rcases enableAudioPort_view stores.toKeptByTuning plugin handle true with
    same | ⟨state, same, moved⟩
  · exact same
  · rw [moved, stores.stores, same, ← already, Function.update_eq_self]

end Stores

/-- What no audio call moves, `EnableAudioPort` does not move. -/
theorem Plugin.enableAudioPort_keeps {hal : AudioHal σ} {view : σ → β} (keeps : hal.Keeps view)
    (plugin : Plugin σ) (handle : Int) (enable : Bool) :
    view (plugin.enableAudioPort hal handle enable).2.hal = view plugin.hal := by
  rcases enableAudioPort_view keeps.toKeptByTuning plugin handle enable with
    same | ⟨state, same, moved⟩
  · exact same
  · rw [moved, keeps.enable, same]

end DeviceSettings.Audio
