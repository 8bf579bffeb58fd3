import DeviceSettings.Audio.Ms12Settings

/-!
# MS12 profiles and their overrides

`SetAudioMS12Profile` and `SetAudioMS12SettingsOverride` under `DS_AUDIO_SETTINGS_PERSISTENCE`.
An override of the active profile goes to the HAL at once, one of another profile is kept in
the store until that profile is chosen.
-/

namespace DeviceSettings.Audio

open DeviceSettings.Std
open DeviceSettings.Persistence

/-- The HAL with its profiles. -/
structure Ms12ProfileHal (σ : Type) extends Ms12Hal σ where
  dsSetMS12AudioProfile : σ → Int → String → Except DsError Unit × σ

/-- A default, or zero. -/
def defaultOr (defaults : Properties) (key : String) : String := (defaults.find? key).getD "0"

/-- The property an override of a profile that is not active is kept in. -/
def overrideProperty (profileName profileSettingsName : String) : Option String :=
  if profileSettingsName = "DialogEnhance" then
    some (generateProfileProperty profileName "EnhancerLevel")
  else if profileSettingsName = "VolumeLevellerMode" then
    some (generateProfileProperty profileName "VolumeLeveller.mode")
  else if profileSettingsName = "VolumeLevellerLevel" then
    some (generateProfileProperty profileName "VolumeLeveller.level")
  else if profileSettingsName = "BassEnhancer" then some "audio.BassBoost"
  else if profileSettingsName = "SurroundVirtualizerMode" then
    some (generateProfileProperty profileName "SurroundVirtualizer.mode")
  else if profileSettingsName = "SurroundVirtualizerLevel" then
    some (generateProfileProperty profileName "SurroundVirtualizer.boost")
  else none

namespace Plugin

variable {σ : Type}

/-- A default property; `"0"` stands where there is none. -/
def defaultOrZero (plugin : Plugin σ) (key : String) : String × Plugin σ :=
  match plugin.store.getDefaultProperty plugin.files key with
  | (.ok value, store) => (value, { plugin with store := store })
  | (.error _, store) => ("0", { plugin with store := store })

theorem defaultOrZero_of_ready {plugin : Plugin σ} (ready : plugin.store.isInitialized = true)
    {key : String} (named : key ≠ "") :
    plugin.defaultOrZero key = (defaultOr plugin.store.defaultProperties key, plugin) := by
  cases found : plugin.store.defaultProperties.find? key <;>
    simp [defaultOrZero, HostPersistence.getDefaultProperty, named, found, defaultOr,
      HostPersistence.ensureInitialized_of_ready ready]

/-- A stored number; 0 stands where there is none. -/
def storedNumber (plugin : Plugin σ) (key : String) : Int × Plugin σ :=
  match plugin.store.getProperty plugin.files key with
  | (.ok value, store) => (atoi value, { plugin with store := store })
  | (.error _, store) => (0, { plugin with store := store })

section Hal

variable (hal : Ms12ProfileHal σ)

/-- Tell the HAL, and persist when it accepts; its refusal is no failure here. -/
def tellMs12 (plugin : Plugin σ) (handle : Int) (call : DsMs12Call)
    (persist : Plugin σ → Except CoreError Unit × Plugin σ) :
    Except CoreError Unit × Plugin σ :=
  match hal.call plugin.hal handle call with
  | (.ok _, state) => persist { plugin with hal := state }
  | (.error _, state) => (.ok (), { plugin with hal := state })

/-! ### `applyMS12ProfileSettingsOverride` -/

/-- One number of the profile: told to the HAL and written back as it was understood. -/
def applySingle (plugin : Plugin σ) (handle : Int) (setting : Ms12Setting)
    (call : Int → DsMs12Call) (key : String) : Plugin σ :=
  if hal.resolves setting = false then plugin
  else
    match plugin.store.getProperty plugin.files key with
    | (.error _, store) => { plugin with store := store }
    | (.ok value, store) =>
      ({ plugin with store := store }.tellMs12 hal handle (call (atoi value)) fun plugin =>
        plugin.persistProperty key (toString (atoi value))).2

/-- Two numbers that the HAL takes together; nothing is done unless both are stored. -/
def applyPair (plugin : Plugin σ) (handle : Int) (setting : Ms12Setting)
    (call : Int → Int → DsMs12Call) (first second : String) : Plugin σ :=
  if hal.resolves setting = false then plugin
  else
    match plugin.store.getProperty plugin.files first with
    | (.error _, store) => { plugin with store := store }
    | (.ok left, store) =>
      match store.getProperty plugin.files second with
      | (.error _, store) => { plugin with store := store }
      | (.ok right, store) =>
        ({ plugin with store := store }.tellMs12 hal handle (call (atoi left) (atoi right))
          fun plugin => plugin.persistProperties
            [(first, toString (atoi left)), (second, toString (atoi right))]).2

/-- `applyMS12ProfileSettingsOverride(handle)`; the bass boost of the profile is looked up and
not used. -/
def applyMS12ProfileSettingsOverride (plugin : Plugin σ) (handle : Int) : Plugin σ :=
  let enhancer := plugin.getCurrentProfileProperty "EnhancerLevel"
  let bass := enhancer.2.getCurrentProfileProperty "BassBoost"
  let volumeMode := bass.2.getCurrentProfileProperty "VolumeLeveller.mode"
  let volumeLevel := volumeMode.2.getCurrentProfileProperty "VolumeLeveller.level"
  let virtualizerMode := volumeLevel.2.getCurrentProfileProperty "SurroundVirtualizer.mode"
  let virtualizerBoost := virtualizerMode.2.getCurrentProfileProperty "SurroundVirtualizer.boost"
  let plugin := virtualizerBoost.2.applySingle hal handle .dialogEnhancement
    .dsSetDialogEnhancement enhancer.1
  let plugin := plugin.applySingle hal handle .bassEnhancer .dsSetBassEnhancer "audio.BassBoost"
  let plugin := plugin.applyPair hal handle .volumeLeveller .dsSetVolumeLeveller volumeMode.1
    volumeLevel.1
  plugin.applyPair hal handle .surroundVirtualizer .dsSetSurroundVirtualizer virtualizerMode.1
    virtualizerBoost.1

/-- `SetAudioMS12Profile(handle, profile)`. -/
def setAudioMS12Profile (plugin : Plugin σ) (handle : Int) (profile : String) :
    Except CoreError Unit × Plugin σ :=
  plugin.guardInitialized fun plugin =>
    match hal.dsSetMS12AudioProfile plugin.hal handle profile with
    | (.error _, state) => (.error .general, { plugin with hal := state })
    | (.ok _, state) =>
      match { plugin with hal := state }.persistProperty "audio.MS12Profile" profile with
      | (.error error, plugin) => (.error error, plugin)
      | (.ok _, plugin) =>
        if profile ≠ "Off" then (.ok (), plugin.applyMS12ProfileSettingsOverride hal handle)
        else (.ok (), plugin)

/-! ### `SetAudioMS12SettingsOverride` -/

/-- A setting with one number, of the active profile. Adding writes to `added`; removing takes the
default of `removed` and writes it to the property that `restored` makes of it. -/
def overrideSingle (plugin : Plugin σ) (handle : Int) (setting : Ms12Setting)
    (call : Int → DsMs12Call) (added removed : Plugin σ → String × Plugin σ)
    (restored : String → String) (profileSettingValue profileState : String) :
    Except CoreError Unit × Plugin σ :=
  if hal.resolves setting = false then (.ok (), plugin)
  else if profileState = "ADD" then
    plugin.tellMs12 hal handle (call (atoi profileSettingValue)) fun plugin =>
      let property := added plugin
      property.2.persistProperty property.1 profileSettingValue
  else if profileState = "REMOVE" then
    let property := removed plugin
    let value := property.2.defaultOrZero property.1
    value.2.tellMs12 hal handle (call (atoi value.1)) fun plugin =>
      plugin.persistProperty (restored property.1) value.1
  else (.ok (), plugin)

/-- The mode of a setting with two numbers, of the active profile: it is persisted when it is in
range, and neither the HAL is told nor the state looked at. -/
def overrideMode (plugin : Plugin σ) (inRange : Int → Bool) (property : String)
    (profileSettingValue : String) : Except CoreError Unit × Plugin σ :=
  if inRange (atoi profileSettingValue) then
    let property := plugin.getCurrentProfileProperty property
    property.2.persistProperty property.1 profileSettingValue
  else (.ok (), plugin)

/-- The level of a setting with two numbers, of the active profile: the HAL gets it with the
stored mode, and both go back to their defaults when it is removed. -/
def overrideLevel (plugin : Plugin σ) (handle : Int) (setting : Ms12Setting)
    (call : Int → Int → DsMs12Call) (mode level : String)
    (profileSettingValue profileState : String) : Except CoreError Unit × Plugin σ :=
  if hal.resolves setting = false then (.ok (), plugin)
  else if profileState = "ADD" then
    let propertyMode := plugin.getCurrentProfileProperty mode
    let storedMode := propertyMode.2.storedNumber propertyMode.1
    storedMode.2.tellMs12 hal handle (call storedMode.1 (atoi profileSettingValue)) fun plugin =>
      let propertyLevel := plugin.getCurrentProfileProperty level
      propertyLevel.2.persistProperty propertyLevel.1 profileSettingValue
  else if profileState = "REMOVE" then
    let propertyMode := plugin.getCurrentProfileProperty mode
    let propertyLevel := propertyMode.2.getCurrentProfileProperty level
    let defaultMode := propertyLevel.2.defaultOrZero propertyMode.1
    let defaultLevel := defaultMode.2.defaultOrZero propertyLevel.1
    defaultLevel.2.tellMs12 hal handle (call (atoi defaultMode.1) (atoi defaultLevel.1))
      fun plugin => plugin.persistProperties
        [(propertyMode.1, defaultMode.1), (propertyLevel.1, defaultLevel.1)]
  else (.ok (), plugin)

/-- An override of the active profile. -/
def overrideActive (plugin : Plugin σ) (handle : Int)
    (profileSettingsName profileSettingValue profileState : String) :
    Except CoreError Unit × Plugin σ :=
  let enhancerLevel := fun plugin : Plugin σ => plugin.getCurrentProfileProperty "EnhancerLevel"
  if profileSettingsName = "DialogEnhance" then
    plugin.overrideSingle hal handle .dialogEnhancement .dsSetDialogEnhancement enhancerLevel
      enhancerLevel id profileSettingValue profileState
  else if profileSettingsName = "VolumeLevellerMode" then
    plugin.overrideMode (fun mode => mode = 0 ∨ mode = 1) "VolumeLeveller.mode" profileSettingValue
  else if profileSettingsName = "VolumeLevellerLevel" then
    plugin.overrideLevel hal handle .volumeLeveller .dsSetVolumeLeveller "VolumeLeveller.mode"
      "VolumeLeveller.level" profileSettingValue profileState
  else if profileSettingsName = "BassEnhancer" then
    plugin.overrideSingle hal handle .bassEnhancer .dsSetBassEnhancer
      (fun plugin => ("audio.BassBoost", plugin))
      (fun plugin => plugin.getCurrentProfileProperty "BassBoost")
      (fun _ => "audio.BassBoost") profileSettingValue profileState
  else if profileSettingsName = "SurroundVirtualizerMode" then
    plugin.overrideMode (fun mode => 0 ≤ mode ∧ mode ≤ 2) "SurroundVirtualizer.mode"
      profileSettingValue
  else if profileSettingsName = "SurroundVirtualizerLevel" then
    plugin.overrideLevel hal handle .surroundVirtualizer .dsSetSurroundVirtualizer
      "SurroundVirtualizer.mode" "SurroundVirtualizer.boost" profileSettingValue profileState
  else (.error .general, plugin)

/-- An override of another profile: kept for later, or put back to the default. -/
def overrideInactive (plugin : Plugin σ) (profileName profileSettingsName profileSettingValue
    profileState : String) : Except CoreError Unit × Plugin σ :=
  match overrideProperty profileName profileSettingsName with
  | none => (.error .general, plugin)
  | some hostProperty =>
    if profileState = "ADD" then plugin.persistProperty hostProperty profileSettingValue
    else if profileState = "REMOVE" then
      let value := plugin.defaultOrZero hostProperty
      value.2.persistProperty hostProperty value.1
    else (.ok (), plugin)

/-- `SetAudioMS12SettingsOverride(handle, profileName, profileSettingsName,
profileSettingValue, profileState)`. -/
def setAudioMS12SettingsOverride (plugin : Plugin σ) (handle : Int) (profileName
    profileSettingsName profileSettingValue profileState : String) :
    Except CoreError Unit × Plugin σ :=
  plugin.guardInitialized fun plugin =>
    let active := plugin.readProperty "audio.MS12Profile" "Off"
    if profileName = active.1 then
      active.2.overrideActive hal handle profileSettingsName profileSettingValue profileState
    else
      active.2.overrideInactive profileName profileSettingsName profileSettingValue profileState

end Hal
end Plugin

/-- The HAL accepts every profile. -/
def Ms12ProfileHal.AcceptsProfiles {σ : Type} (hal : Ms12ProfileHal σ) : Prop :=
  ∀ state handle profile, (hal.dsSetMS12AudioProfile state handle profile).1 = .ok ()

namespace Ms12Memory

/-- Profiles change nothing by themselves. -/
def profileHal : Ms12ProfileHal (Int → Ms12Setting → Option DsMs12Call) :=
  { hal with dsSetMS12AudioProfile memory _ _ := (.ok (), memory) }

theorem accepts : profileHal.AcceptsProfiles := fun _ _ _ => rfl

end Ms12Memory
end DeviceSettings.Audio
