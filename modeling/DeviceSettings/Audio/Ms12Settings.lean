import DeviceSettings.Audio.Enabling
import DeviceSettings.Std.Decimal
import DeviceSettings.Std.LastWrite

/-!
# Audio processing settings

The setters of `dAudioImpl` for compression, dialog enhancement and their siblings, under
`DS_AUDIO_SETTINGS_PERSISTENCE`. Each tells the HAL and persists what it has told. Some of the
properties belong to the current MS12 profile, and without one to the profile `Off`.
-/

namespace DeviceSettings.Audio

open DeviceSettings.Std
open DeviceSettings.Persistence

/-- The settings the HAL keeps for a port. -/
inductive Ms12Setting where
  | audioCompression
  | dialogEnhancement
  | dolbyVolumeMode
  | intelligentEqualizerMode
  | volumeLeveller
  | bassEnhancer
  | surroundDecoder
  | drcMode
  | surroundVirtualizer
  | miSteering
  | graphicEqualizerMode
  deriving DecidableEq, Repr

/-- The entry points of the HAL for them, with their argument behind the handle. -/
inductive DsMs12Call where
  | dsSetAudioCompression (compressionLevel : Int)
  | dsSetDialogEnhancement (level : Int)
  | dsSetDolbyVolumeMode (enable : Bool)
  | dsSetIntelligentEqualizerMode (mode : Int)
  | dsSetVolumeLeveller (mode level : Int)
  | dsSetBassEnhancer (boost : Int)
  | dsEnableSurroundDecoder (enable : Bool)
  | dsSetDRCMode (mode : Int)
  | dsSetSurroundVirtualizer (mode boost : Int)
  | dsSetMISteering (enable : Bool)
  | dsSetGraphicEqualizerMode (mode : Int)
  deriving DecidableEq, Repr

/-- The setting an entry point is about. -/
def DsMs12Call.setting : DsMs12Call → Ms12Setting
  | .dsSetAudioCompression _ => .audioCompression
  | .dsSetDialogEnhancement _ => .dialogEnhancement
  | .dsSetDolbyVolumeMode _ => .dolbyVolumeMode
  | .dsSetIntelligentEqualizerMode _ => .intelligentEqualizerMode
  | .dsSetVolumeLeveller _ _ => .volumeLeveller
  | .dsSetBassEnhancer _ => .bassEnhancer
  | .dsEnableSurroundDecoder _ => .surroundDecoder
  | .dsSetDRCMode _ => .drcMode
  | .dsSetSurroundVirtualizer _ _ => .surroundVirtualizer
  | .dsSetMISteering _ => .miSteering
  | .dsSetGraphicEqualizerMode _ => .graphicEqualizerMode

/-- The HAL with these entry points. `resolves` says which of them `resolve` finds; the others
are never called. -/
structure Ms12Hal (σ : Type) extends AudioHal σ where
  resolves : Ms12Setting → Bool
  call : σ → Int → DsMs12Call → Except DsError Unit × σ

/-- `VolumeLeveller` of the plugin interface. -/
structure VolumeLeveller where
  mode : UInt8
  level : UInt8
  deriving DecidableEq, Repr

/-- `SurroundVirtualizer` of the plugin interface. -/
structure SurroundVirtualizer where
  mode : UInt8
  boost : UInt8
  deriving DecidableEq, Repr

/-- `generateProfileProperty(profile, property)`. -/
def generateProfileProperty (profile property : String) : String :=
  "audio." ++ profile ++ "." ++ property

/-- A property, else its default, else a constant. -/
def storedValue (store : HostPersistence) (key fallback : String) : String :=
  ((store.properties.find? key).or (store.defaultProperties.find? key)).getD fallback

namespace Plugin

variable {σ : Type}

/-- `persistHostProperty`; what it throws ends in a handler that answers `ERROR_GENERAL`. -/
def persistProperty (plugin : Plugin σ) (key value : String) :
    Except CoreError Unit × Plugin σ :=
  match plugin.store.persistHostProperty plugin.files key value with
  | (.ok _, store, files) => (.ok (), { plugin with store := store, files := files })
  | (.error _, store, files) => (.error .general, { plugin with store := store, files := files })

/-- Several properties; one that is refused keeps the later ones from being written. -/
def persistProperties (plugin : Plugin σ) :
    List (String × String) → Except CoreError Unit × Plugin σ
  | [] => (.ok (), plugin)
  | (key, value) :: rest =>
    match plugin.persistProperty key value with
    | (.error error, plugin) => (.error error, plugin)
    | (.ok _, plugin) => plugin.persistProperties rest

/-- `getCurrentProfileProperty(property)`: the default properties are not asked. -/
def getCurrentProfileProperty (plugin : Plugin σ) (property : String) : String × Plugin σ :=
  match plugin.store.getProperty plugin.files "audio.MS12Profile" with
  | (.ok profile, store) => (generateProfileProperty profile property, { plugin with store := store })
  | (.error _, store) => (generateProfileProperty "Off" property, { plugin with store := store })

section Setters

variable (hal : Ms12Hal σ)

/-- What the setters have in common: tell the HAL, and persist when it accepts. -/
def setMs12Setting (plugin : Plugin σ) (handle : Int) (call : DsMs12Call)
    (persist : Plugin σ → Except CoreError Unit × Plugin σ) :
    Except CoreError Unit × Plugin σ :=
  if hal.resolves call.setting = false then (.error .general, plugin)
  else
    match hal.call plugin.hal handle call with
    | (.error _, state) => (.error .general, { plugin with hal := state })
    | (.ok _, state) => persist { plugin with hal := state }

/-- The guard that most of the setters begin with. -/
def guardInitialized (plugin : Plugin σ) (body : Plugin σ → Except CoreError Unit × Plugin σ) :
    Except CoreError Unit × Plugin σ :=
  if plugin.audio.isInitialized = false then (.error .general, plugin) else body plugin

/-- `SetAudioCompression(handle, compressionLevel)`. -/
def setAudioCompression (plugin : Plugin σ) (handle : Int) (compressionLevel : Int32) :
    Except CoreError Unit × Plugin σ :=
  plugin.setMs12Setting hal handle (.dsSetAudioCompression compressionLevel.toInt) fun plugin =>
    plugin.persistProperty "audio.Compression" (toString compressionLevel.toInt)

/-- `SetAudioDialogEnhancement(handle, level)`. -/
def setAudioDialogEnhancement (plugin : Plugin σ) (handle : Int) (level : Int32) :
    Except CoreError Unit × Plugin σ :=
  plugin.guardInitialized fun plugin =>
    plugin.setMs12Setting hal handle (.dsSetDialogEnhancement level.toInt) fun plugin =>
      let property := plugin.getCurrentProfileProperty "EnhancerLevel"
      property.2.persistProperty property.1 (toString level.toInt)

/-- `SetAudioIntelligentEqualizerMode(handle, mode)`. -/
def setAudioIntelligentEqualizerMode (plugin : Plugin σ) (handle : Int) (mode : Int32) :
    Except CoreError Unit × Plugin σ :=
  plugin.setMs12Setting hal handle (.dsSetIntelligentEqualizerMode mode.toInt) fun plugin =>
    plugin.persistProperty "audio.IntelligentEQ" (toString mode.toInt)

/-- `SetAudioVolumeLeveller(handle, volumeLeveller)`: the level of the modes above 1 is not
persisted. -/
def setAudioVolumeLeveller (plugin : Plugin σ) (handle : Int) (volumeLeveller : VolumeLeveller) :
    Except CoreError Unit × Plugin σ :=
  plugin.guardInitialized fun plugin =>
    plugin.setMs12Setting hal handle
      (.dsSetVolumeLeveller volumeLeveller.mode.toNat volumeLeveller.level.toNat) fun plugin =>
      let propertyMode := plugin.getCurrentProfileProperty "VolumeLeveller.mode"
      let propertyLevel := propertyMode.2.getCurrentProfileProperty "VolumeLeveller.level"
      propertyLevel.2.persistProperties
        ((propertyMode.1, toString volumeLeveller.mode.toNat) ::
          if volumeLeveller.mode = 0 ∨ volumeLeveller.mode = 1 then
            [(propertyLevel.1, toString volumeLeveller.level.toNat)]
          else [])

/-- `SetAudioBassEnhancer(handle, boost)`. -/
def setAudioBassEnhancer (plugin : Plugin σ) (handle : Int) (boost : Int32) :
    Except CoreError Unit × Plugin σ :=
  plugin.guardInitialized fun plugin =>
    plugin.setMs12Setting hal handle (.dsSetBassEnhancer boost.toInt) fun plugin =>
      plugin.persistProperty "audio.BassBoost" (toString boost.toInt)

/-- `EnableAudioSurroudDecoder(handle, enable)`. -/
def enableAudioSurroudDecoder (plugin : Plugin σ) (handle : Int) (enable : Bool) :
    Except CoreError Unit × Plugin σ :=
  plugin.guardInitialized fun plugin =>
    plugin.setMs12Setting hal handle (.dsEnableSurroundDecoder enable) fun plugin =>
      plugin.persistProperty "audio.SurroundDecoderEnabled" (if enable then "TRUE" else "FALSE")

/-- `SetAudioDRCMode(handle, drcMode)`: every mode but 0 is persisted as `RF`. -/
def setAudioDRCMode (plugin : Plugin σ) (handle : Int) (drcMode : Int32) :
    Except CoreError Unit × Plugin σ :=
  plugin.guardInitialized fun plugin =>
    plugin.setMs12Setting hal handle (.dsSetDRCMode drcMode.toInt) fun plugin =>
      plugin.persistProperty "audio.DRCMode" (if drcMode.toInt ≠ 0 then "RF" else "Line")

/-- `SetAudioSurroudVirtualizer(handle, surroundVirtualizer)`: the boost of the modes above 2 is
not persisted. -/
def setAudioSurroudVirtualizer (plugin : Plugin σ) (handle : Int)
    (surroundVirtualizer : SurroundVirtualizer) : Except CoreError Unit × Plugin σ :=
  plugin.guardInitialized fun plugin =>
    plugin.setMs12Setting hal handle
      (.dsSetSurroundVirtualizer surroundVirtualizer.mode.toNat surroundVirtualizer.boost.toNat)
      fun plugin =>
      let propertyMode := plugin.getCurrentProfileProperty "SurroundVirtualizer.mode"
      let propertyBoost := propertyMode.2.getCurrentProfileProperty "SurroundVirtualizer.boost"
      propertyBoost.2.persistProperties
        ((propertyMode.1, toString surroundVirtualizer.mode.toNat) ::
          if surroundVirtualizer.mode ≤ 2 then
            [(propertyBoost.1, toString surroundVirtualizer.boost.toNat)]
          else [])

/-- `SetAudioMISteering(handle, enable)`. -/
def setAudioMISteering (plugin : Plugin σ) (handle : Int) (enable : Bool) :
    Except CoreError Unit × Plugin σ :=
  plugin.guardInitialized fun plugin =>
    plugin.setMs12Setting hal handle (.dsSetMISteering enable) fun plugin =>
      plugin.persistProperty "audio.MISteering" (if enable then "Enabled" else "Disabled")

/-- `SetAudioGraphicEqualizerMode(handle, mode)`. -/
def setAudioGraphicEqualizerMode (plugin : Plugin σ) (handle : Int) (mode : Int32) :
    Except CoreError Unit × Plugin σ :=
  plugin.setMs12Setting hal handle (.dsSetGraphicEqualizerMode mode.toInt) fun plugin =>
    plugin.persistProperty "audio.GraphicEQ" (toString mode.toInt)

end Setters

/-! ### Persisting on a loaded store -/

theorem persistProperty_of_up {plugin : Plugin σ} (up : plugin.Up) {key value : String}
    (accepted : key ≠ "" ∧ value ≠ "") :
    (plugin.persistProperty key value).1 = .ok () ∧
      (plugin.persistProperty key value).2.Up ∧
      (plugin.persistProperty key value).2.hal = plugin.hal ∧
      (plugin.persistProperty key value).2.store =
        { plugin.store with properties := plugin.store.properties.set key value } := by
  have kept := HostPersistence.persistHostProperty_store up.ready plugin.files accepted
  have answer :=
    (HostPersistence.persistHostProperty_ok_iff plugin.store plugin.files key value).mpr accepted
  unfold persistProperty
  generalize plugin.store.persistHostProperty plugin.files key value = result at kept answer
  obtain ⟨outcome, store, files⟩ := result
  dsimp only at kept answer
  subst kept answer
  exact ⟨rfl, ⟨up.initialized, up.ready⟩, rfl, rfl⟩

theorem persistProperty_refused {plugin : Plugin σ} (up : plugin.Up) (key : String) :
    plugin.persistProperty key "" = (.error .general, plugin) := by
  simp [persistProperty, HostPersistence.persistHostProperty,
    HostPersistence.ensureInitialized_of_ready up.ready]

@[simp] theorem persistProperty_hal (plugin : Plugin σ) (key value : String) :
    (plugin.persistProperty key value).2.hal = plugin.hal := by
  unfold persistProperty
  split <;> rfl

/-- What a list of bindings has under a key. -/
def binding (key : String) (entry : String × String) : Option String :=
  if entry.1 = key then some entry.2 else none

theorem persistProperties_of_up {entries : List (String × String)}
    (accepted : ∀ entry ∈ entries, entry.1 ≠ "" ∧ entry.2 ≠ "") {plugin : Plugin σ}
    (up : plugin.Up) :
    (plugin.persistProperties entries).1 = .ok () ∧
      (plugin.persistProperties entries).2.Up ∧
      (plugin.persistProperties entries).2.hal = plugin.hal ∧
      (plugin.persistProperties entries).2.store.defaultProperties =
        plugin.store.defaultProperties ∧
      ∀ key, (plugin.persistProperties entries).2.store.properties.find? key =
        (lastOf (binding key) entries).or (plugin.store.properties.find? key) := by
  induction entries generalizing plugin with
  | nil => exact ⟨rfl, up, rfl, rfl, fun key => by rw [lastOf_nil, Option.none_or]; rfl⟩
  | cons entry rest ih =>
      obtain ⟨key, value⟩ := entry
      obtain ⟨answer, up', sameHal, store⟩ :=
        persistProperty_of_up up (accepted (key, value) List.mem_cons_self)
      obtain ⟨answer', up'', sameHal', defaults, found⟩ :=
        ih (fun entry member => accepted entry (List.mem_cons_of_mem _ member)) up'
      have next : plugin.persistProperties ((key, value) :: rest) =
          (plugin.persistProperty key value).2.persistProperties rest := by
        rw [persistProperties]
        generalize plugin.persistProperty key value = first at answer
        obtain ⟨outcome, written⟩ := first
        dsimp only at answer
        subst answer
        rfl
      rw [next]
      refine ⟨answer', up'', sameHal'.trans sameHal, ?_, fun other => ?_⟩
      · rw [defaults, store]
      · rw [found, store, lastOf_cons, Option.or_assoc, OrderedMap.find?_set]
        by_cases same : key = other
        · subst same
          simp [binding]
        · simp [binding, same]

/-- `getCurrentProfileProperty` of a loaded store. -/
theorem getCurrentProfileProperty_of_ready {plugin : Plugin σ}
    (ready : plugin.store.isInitialized = true) (property : String) :
    plugin.getCurrentProfileProperty property =
      (generateProfileProperty ((plugin.store.properties.find? "audio.MS12Profile").getD "Off")
        property, plugin) := by
  cases stored : plugin.store.properties.find? "audio.MS12Profile" <;>
    simp [getCurrentProfileProperty, HostPersistence.getProperty, stored,
      HostPersistence.ensureInitialized_of_ready ready]

theorem persistProperty_eq (plugin : Plugin σ) (key value : String) :
    plugin.persistProperty key value = plugin.persistProperties [(key, value)] := by
  rw [persistProperties]
  generalize plugin.persistProperty key value = first
  obtain ⟨outcome, next⟩ := first
  cases outcome <;> rfl

end Plugin

/-! ### A HAL that stores what it is told -/

/-- The call, if it is about this setting. -/
def DsMs12Call.about (setting : Ms12Setting) (call : DsMs12Call) : Option DsMs12Call :=
  if call.setting = setting then some call else none

/-- Every call succeeds, and `held` remembers the last one about each setting of each handle. -/
structure Ms12Hal.Stores {σ : Type} (hal : Ms12Hal σ)
    (held : σ → Int → Ms12Setting → Option DsMs12Call) : Prop where
  ports : hal.DistinctPorts
  resolves : ∀ setting, hal.resolves setting = true
  succeeds : ∀ state handle call, (hal.call state handle call).1 = .ok ()
  stores : ∀ state handle call other setting,
    held (hal.call state handle call).2 other setting =
      if other = handle then (call.about setting).or (held state other setting)
      else held state other setting

namespace Ms12Memory

/-- The last call about each setting of each handle. -/
def hal : Ms12Hal (Int → Ms12Setting → Option DsMs12Call) where
  dsGetAudioPort _ type _ :=
    match type with
    | .speaker => .ok 1
    | .hdmi => .ok 2
    | _ => .error .operationNotSupported
  dsIsAudioPortEnabled _ _ := .ok true
  dsIsAudioMute _ _ := .ok false
  dsEnableAudioPort memory _ _ := (.ok (), memory)
  dsSetAudioLevel memory _ _ := (.ok (), memory)
  dsSetAudioDelay memory _ _ := (.ok (), memory)
  resolves _ := true
  call memory handle call :=
    (.ok (), fun other setting =>
      if other = handle then (call.about setting).or (memory other setting)
      else memory other setting)

theorem stores : hal.Stores fun memory => memory where
  ports := {
    fixed _ _ := rfl
    narrow := by
      intro memory type handle port
      cases type <;> cases port <;> decide
    distinct := by
      intro memory type other handle port same
      cases type <;> cases port <;> cases other <;> cases same <;> rfl }
  resolves _ := rfl
  succeeds _ _ _ := rfl
  stores _ _ _ _ _ := rfl

/-- A plugin that is up on an empty store. -/
def start : Plugin (Int → Ms12Setting → Option DsMs12Call) where
  hal _ _ := none
  audio := ⟨true, false, 0, ⟨0, 0, 0, 0⟩, fun _ => false⟩
  store := { HostPersistence.ofStoreFile "/opt/persistent/ds/hostData" with isInitialized := true }
  files _ := .absent

end Ms12Memory

end DeviceSettings.Audio
