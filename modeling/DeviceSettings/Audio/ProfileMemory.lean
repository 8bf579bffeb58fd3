import DeviceSettings.Audio.Ms12Interference
import DeviceSettings.Std.Machine

/-!
# What a profile remembers

The settings of an MS12 profile are set, reset to their defaults and overridden, and the profile
changes in between. Whatever the order, choosing a profile tells the HAL the numbers that were
stored for it last; only the bass boost comes from whichever profile had it last.
-/

namespace DeviceSettings.Audio

open DeviceSettings.Std
open DeviceSettings.Persistence

attribute [local irreducible] atoi

variable {σ : Type}

namespace Plugin

/-! ### The resets -/

section Resets

variable (hal : Ms12Hal σ)

/-- Tell the HAL, and persist when it accepts; its refusal fails the call. -/
def acceptMs12 (plugin : Plugin σ) (handle : Int) (call : DsMs12Call)
    (persist : Plugin σ → Except CoreError Unit × Plugin σ) :
    Except CoreError Unit × Plugin σ :=
  match hal.call plugin.hal handle call with
  | (.error _, state) => (.error .general, { plugin with hal := state })
  | (.ok _, state) => persist { plugin with hal := state }

/-- The resets of one number: its default is told, and persisted under what `key` makes of its
property. -/
def resetSingle (plugin : Plugin σ) (handle : Int) (setting : Ms12Setting)
    (call : Int → DsMs12Call) (property : String) (key : String → String) :
    Except CoreError Unit × Plugin σ :=
  plugin.guardInitialized fun plugin =>
    if hal.resolves setting = false then (.error .general, plugin)
    else
      let property := plugin.getCurrentProfileProperty property
      let value := property.2.defaultOrZero property.1
      value.2.acceptMs12 hal handle (call (atoi value.1)) fun plugin =>
        plugin.persistProperty (key property.1) value.1

/-- The resets of two numbers. -/
def resetPair (plugin : Plugin σ) (handle : Int) (setting : Ms12Setting)
    (call : Int → Int → DsMs12Call) (first second : String) :
    Except CoreError Unit × Plugin σ :=
  plugin.guardInitialized fun plugin =>
    if hal.resolves setting = false then (.error .general, plugin)
    else
      let propertyMode := plugin.getCurrentProfileProperty first
      let propertyLevel := propertyMode.2.getCurrentProfileProperty second
      let mode := propertyLevel.2.defaultOrZero propertyMode.1
      let level := mode.2.defaultOrZero propertyLevel.1
      level.2.acceptMs12 hal handle (call (atoi mode.1) (atoi level.1)) fun plugin =>
        plugin.persistProperties [(propertyMode.1, mode.1), (propertyLevel.1, level.1)]

/-- `ResetAudioDialogEnhancement(handle)`. -/
def resetAudioDialogEnhancement (plugin : Plugin σ) (handle : Int) :
    Except CoreError Unit × Plugin σ :=
  plugin.resetSingle hal handle .dialogEnhancement .dsSetDialogEnhancement "EnhancerLevel" id

/-- `ResetAudioBassEnhancer(handle)`: the default is the profile's, the property the one of all. -/
def resetAudioBassEnhancer (plugin : Plugin σ) (handle : Int) : Except CoreError Unit × Plugin σ :=
  plugin.resetSingle hal handle .bassEnhancer .dsSetBassEnhancer "BassBoost" fun _ =>
    "audio.BassBoost"

/-- `ResetAudioSurroundVirtualizer(handle)`. -/
def resetAudioSurroundVirtualizer (plugin : Plugin σ) (handle : Int) :
    Except CoreError Unit × Plugin σ :=
  plugin.resetPair hal handle .surroundVirtualizer .dsSetSurroundVirtualizer
    "SurroundVirtualizer.mode" "SurroundVirtualizer.boost"

/-- `ResetAudioVolumeLeveller(handle)`. -/
def resetAudioVolumeLeveller (plugin : Plugin σ) (handle : Int) :
    Except CoreError Unit × Plugin σ :=
  plugin.resetPair hal handle .volumeLeveller .dsSetVolumeLeveller "VolumeLeveller.mode"
    "VolumeLeveller.level"

end Resets
end Plugin

/-! ### Runs -/

/-- The calls about the settings of a profile. -/
inductive ProfileCall where
  | setAudioDialogEnhancement (level : Int32)
  | setAudioBassEnhancer (boost : Int32)
  | setAudioVolumeLeveller (volumeLeveller : VolumeLeveller)
  | setAudioSurroudVirtualizer (surroundVirtualizer : SurroundVirtualizer)
  | resetAudioDialogEnhancement
  | resetAudioBassEnhancer
  | resetAudioVolumeLeveller
  | resetAudioSurroundVirtualizer
  | setAudioMS12Profile (profile : String)
  | setAudioMS12SettingsOverride (profileName profileSettingsName profileSettingValue
      profileState : String)
  deriving DecidableEq, Repr

/-- A call on a handle. -/
def ProfileCall.run (hal : Ms12ProfileHal σ) (plugin : Plugin σ) (handle : Int) :
    ProfileCall → Except CoreError Unit × Plugin σ
  | .setAudioDialogEnhancement level =>
    plugin.setAudioDialogEnhancement hal.toMs12Hal handle level
  | .setAudioBassEnhancer boost => plugin.setAudioBassEnhancer hal.toMs12Hal handle boost
  | .setAudioVolumeLeveller volumeLeveller =>
    plugin.setAudioVolumeLeveller hal.toMs12Hal handle volumeLeveller
  | .setAudioSurroudVirtualizer surroundVirtualizer =>
    plugin.setAudioSurroudVirtualizer hal.toMs12Hal handle surroundVirtualizer
  | .resetAudioDialogEnhancement => plugin.resetAudioDialogEnhancement hal.toMs12Hal handle
  | .resetAudioBassEnhancer => plugin.resetAudioBassEnhancer hal.toMs12Hal handle
  | .resetAudioVolumeLeveller => plugin.resetAudioVolumeLeveller hal.toMs12Hal handle
  | .resetAudioSurroundVirtualizer => plugin.resetAudioSurroundVirtualizer hal.toMs12Hal handle
  | .setAudioMS12Profile profile => plugin.setAudioMS12Profile hal handle profile
  | .setAudioMS12SettingsOverride profileName profileSettingsName profileSettingValue
      profileState =>
    plugin.setAudioMS12SettingsOverride hal handle profileName profileSettingsName
      profileSettingValue profileState

/-- One call is one step. -/
def profileMachine (hal : Ms12ProfileHal σ) :
    Machine (Plugin σ) (Int × ProfileCall) (Except CoreError Unit) where
  step plugin action :=
    let called := action.2.run hal plugin action.1
    some (called.2, [called.1])

abbrev ProfileStep (σ : Type) := Occurrence (Plugin σ) (Int × ProfileCall) (Except CoreError Unit)

/-! ### What a call stores -/

/-- The profile whose properties the setters write. -/
def currentProfile (store : HostPersistence) : String :=
  (store.properties.find? "audio.MS12Profile").getD "Off"

/-- The default of a property of the current profile. -/
def currentDefault (store : HostPersistence) (field : ProfileField) : String :=
  defaultOr store.defaultProperties (generateProfileProperty (currentProfile store) field.property)

/-- The HAL has the function and takes the call. -/
def takes (hal : Ms12ProfileHal σ) (plugin : Plugin σ) (handle : Int) (call : DsMs12Call) : Bool :=
  hal.resolves call.setting && (hal.call plugin.hal handle call).1.isOk

/-- The number that a setting name stands for. -/
def ProfileField.ofName (name : String) : Option ProfileField :=
  [.enhancerLevel, .bassBoost, .volumeMode, .volumeLevel, .virtualizerMode,
    .virtualizerBoost].find? fun field => field.settingsName = name

section Given

variable (hal : Ms12ProfileHal σ) (plugin : Plugin σ) (handle : Int)

/-- The texts that are stored where the HAL takes the call. -/
def givenIf (call : DsMs12Call) (texts : List (ProfileField × String)) :
    List (ProfileField × String) :=
  if takes hal plugin handle call then texts else []

/-- An override of a number that the HAL takes alone. -/
def givenSingle (call : Int → DsMs12Call) (field : ProfileField)
    (profileSettingValue profileState : String) : List (ProfileField × String) :=
  let default := currentDefault plugin.store field
  if profileState = "ADD" then
    givenIf hal plugin handle (call (atoi profileSettingValue)) [(field, profileSettingValue)]
  else if profileState = "REMOVE" then
    givenIf hal plugin handle (call (atoi default)) [(field, default)]
  else []

/-- An override of a level; the HAL takes it with the mode. -/
def givenLevel (call : Int → Int → DsMs12Call) (mode level : ProfileField)
    (profileSettingValue profileState : String) : List (ProfileField × String) :=
  let defaultMode := currentDefault plugin.store mode
  let defaultLevel := currentDefault plugin.store level
  if profileState = "ADD" then
    let storedMode := (numberAt plugin.store (currentProfile plugin.store) mode).getD 0
    givenIf hal plugin handle (call storedMode (atoi profileSettingValue))
      [(level, profileSettingValue)]
  else if profileState = "REMOVE" then
    givenIf hal plugin handle (call (atoi defaultMode) (atoi defaultLevel))
      [(mode, defaultMode), (level, defaultLevel)]
  else []

/-- What an override of the active profile gives to the store. -/
def givenActive (profileSettingValue profileState : String) :
    ProfileField → List (ProfileField × String)
  | .enhancerLevel =>
    givenSingle hal plugin handle .dsSetDialogEnhancement .enhancerLevel profileSettingValue
      profileState
  | .bassBoost =>
    givenSingle hal plugin handle .dsSetBassEnhancer .bassBoost profileSettingValue profileState
  | .volumeMode =>
    if atoi profileSettingValue = 0 ∨ atoi profileSettingValue = 1 then
      [(.volumeMode, profileSettingValue)]
    else []
  | .volumeLevel =>
    givenLevel hal plugin handle .dsSetVolumeLeveller .volumeMode .volumeLevel
      profileSettingValue profileState
  | .virtualizerMode =>
    if 0 ≤ atoi profileSettingValue ∧ atoi profileSettingValue ≤ 2 then
      [(.virtualizerMode, profileSettingValue)]
    else []
  | .virtualizerBoost =>
    givenLevel hal plugin handle .dsSetSurroundVirtualizer .virtualizerMode .virtualizerBoost
      profileSettingValue profileState

/-- What an override of another profile gives to the store. -/
def givenInactive (profileName profileSettingValue profileState : String) (field : ProfileField) :
    List (ProfileField × String) :=
  if profileState = "ADD" then [(field, profileSettingValue)]
  else if profileState = "REMOVE" then
    [(field, defaultOr plugin.store.defaultProperties (field.key profileName))]
  else []

/-- The profile a call is about, and the texts that it gives to the store for it, in order. -/
def given : ProfileCall → String × List (ProfileField × String)
  | .setAudioDialogEnhancement level =>
    (currentProfile plugin.store, givenIf hal plugin handle (.dsSetDialogEnhancement level.toInt)
      [(.enhancerLevel, toString level.toInt)])
  | .setAudioBassEnhancer boost =>
    (currentProfile plugin.store, givenIf hal plugin handle (.dsSetBassEnhancer boost.toInt)
      [(.bassBoost, toString boost.toInt)])
  | .setAudioVolumeLeveller ⟨mode, level⟩ =>
    (currentProfile plugin.store, givenIf hal plugin handle
      (.dsSetVolumeLeveller mode.toNat level.toNat)
      ((.volumeMode, toString mode.toNat) ::
        if mode = 0 ∨ mode = 1 then [(.volumeLevel, toString level.toNat)] else []))
  | .setAudioSurroudVirtualizer ⟨mode, boost⟩ =>
    (currentProfile plugin.store, givenIf hal plugin handle
      (.dsSetSurroundVirtualizer mode.toNat boost.toNat)
      ((.virtualizerMode, toString mode.toNat) ::
        if mode ≤ 2 then [(.virtualizerBoost, toString boost.toNat)] else []))
  | .resetAudioDialogEnhancement =>
    let default := currentDefault plugin.store .enhancerLevel
    (currentProfile plugin.store, givenIf hal plugin handle
      (.dsSetDialogEnhancement (atoi default)) [(.enhancerLevel, default)])
  | .resetAudioBassEnhancer =>
    let default := currentDefault plugin.store .bassBoost
    (currentProfile plugin.store, givenIf hal plugin handle
      (.dsSetBassEnhancer (atoi default)) [(.bassBoost, default)])
  | .resetAudioVolumeLeveller =>
    let mode := currentDefault plugin.store .volumeMode
    let level := currentDefault plugin.store .volumeLevel
    (currentProfile plugin.store, givenIf hal plugin handle
      (.dsSetVolumeLeveller (atoi mode) (atoi level)) [(.volumeMode, mode), (.volumeLevel, level)])
  | .resetAudioSurroundVirtualizer =>
    let mode := currentDefault plugin.store .virtualizerMode
    let boost := currentDefault plugin.store .virtualizerBoost
    (currentProfile plugin.store, givenIf hal plugin handle
      (.dsSetSurroundVirtualizer (atoi mode) (atoi boost))
      [(.virtualizerMode, mode), (.virtualizerBoost, boost)])
  | .setAudioMS12Profile profile => (profile, [])
  | .setAudioMS12SettingsOverride profileName profileSettingsName profileSettingValue
      profileState =>
    let field := ProfileField.ofName profileSettingsName
    if profileName = storedValue plugin.store "audio.MS12Profile" "Off" then
      (currentProfile plugin.store,
        field.elim [] (givenActive hal plugin handle profileSettingValue profileState))
    else
      (profileName,
        field.elim [] (givenInactive plugin profileName profileSettingValue profileState))

end Given

/-- The number that is stored under a field, of the texts given: an empty one is refused, and
keeps those behind it from being written. -/
def lastStored (field : ProfileField) (texts : List (ProfileField × String)) : Option Int :=
  lastOf (fun entry => if entry.1 = field then some (atoi entry.2) else none)
    (texts.takeWhile fun entry => entry.2 ≠ "")

/-- The number that a step stores for a profile: its own, but the bass boost of any. -/
def remembered (hal : Ms12ProfileHal σ) (profile : String) (field : ProfileField)
    (step : ProfileStep σ) : Option Int :=
  let given := given hal step.before step.action.1 step.action.2
  if field = .bassBoost ∨ given.1 = profile then lastStored field given.2 else none

/-! ### Giving texts to the store -/

theorem ProfileField.key_eq_iff {profile other : String} {field field' : ProfileField} :
    field.key profile = field'.key other ↔
      field = field' ∧ (field' = .bassBoost ∨ profile = other) := by
  constructor
  · intro same
    by_cases profiles : profile = other
    · subst profiles
      exact ⟨ProfileField.key_injective profile same, .inr rfl⟩
    · obtain ⟨rfl, rfl⟩ := ProfileField.key_eq_of_ne profiles same
      exact ⟨rfl, .inl rfl⟩
  · rintro ⟨rfl, rfl | rfl⟩
    · rfl
    · rfl

@[simp] theorem lastStored_nil (field : ProfileField) : lastStored field [] = none := rfl

theorem lastStored_cons (field written : ProfileField) (text : String)
    (rest : List (ProfileField × String)) :
    lastStored field ((written, text) :: rest) =
      if text = "" then none
      else (lastStored field rest).or (if written = field then some (atoi text) else none) := by
  by_cases refused : text = "" <;> simp [lastStored, refused, lastOf_cons]

theorem ProfileField.key_own (profile : String) {field : ProfileField} (own : field ≠ .bassBoost) :
    field.key profile = generateProfileProperty profile field.property := if_neg own

theorem generateProfileProperty_ne (profile property : String) :
    generateProfileProperty profile property ≠ "" := by
  intro empty
  have long := ProfileField.length_generateProfileProperty profile property
  rw [empty] at long
  exact absurd long (by simp)

theorem ProfileField.ofName_eq_some {name : String} {field : ProfileField}
    (named : ProfileField.ofName name = some field) : field.settingsName = name := by
  simpa using List.find?_some named

theorem ProfileField.ofName_eq_none_iff {name : String} :
    ProfileField.ofName name = none ↔ ∀ field : ProfileField, name ≠ field.settingsName := by
  rw [ProfileField.ofName, List.find?_eq_none]
  constructor
  · intro unnamed field same
    have listed : field ∈ [ProfileField.enhancerLevel, .bassBoost, .volumeMode, .volumeLevel,
        .virtualizerMode, .virtualizerBoost] := by cases field <;> decide
    exact unnamed field listed (by simp [same])
  · intro other field _ same
    exact other field (of_decide_eq_true same).symm

/-- A profile is given texts, and nothing else about the profiles changes. -/
structure Gives (before : Plugin σ) (profile : String) (texts : List (ProfileField × String))
    (after : Plugin σ) : Prop where
  up : after.Up
  numbers : ∀ other field, numberAt after.store other field =
    (if field = .bassBoost ∨ profile = other then lastStored field texts else none).or
      (numberAt before.store other field)

namespace Gives

variable {before middle after plugin : Plugin σ} {profile : String}
  {texts : List (ProfileField × String)}

theorem refl (up : plugin.Up) (profile : String) : Gives plugin profile [] plugin :=
  ⟨up, fun _ _ => by simp⟩

theorem withHal (up : plugin.Up) (profile : String) (state : σ) :
    Gives plugin profile [] { plugin with hal := state } :=
  ⟨up.withHal state, fun _ _ => by simp⟩

/-- Nothing was given before. -/
theorem trans (first : Gives before profile [] middle)
    (second : Gives middle profile texts after) : Gives before profile texts after where
  up := second.up
  numbers other field := by
    rw [second.numbers, first.numbers]
    simp

theorem persist (up : plugin.Up) (profile : String) (texts : List (ProfileField × String)) :
    Gives plugin profile texts
      (plugin.persistProperties (texts.map fun entry => (entry.1.key profile, entry.2))).2 := by
  induction texts generalizing plugin with
  | nil => exact refl up profile
  | cons entry rest ih =>
      obtain ⟨written, text⟩ := entry
      rw [List.map_cons, Plugin.persistProperties]
      by_cases refused : text = ""
      · subst refused
        rw [Plugin.persistProperty_refused up]
        exact ⟨up, fun _ _ => by simp [lastStored_cons]⟩
      · obtain ⟨answer, up', -, store⟩ :=
          Plugin.persistProperty_of_up up (And.intro (ProfileField.key_ne written) refused)
        generalize plugin.persistProperty (written.key profile) text = called
          at answer up' store
        obtain ⟨outcome, next⟩ := called
        dsimp only at answer up' store
        subst answer
        have later := ih up'
        refine ⟨later.up, fun other field => ?_⟩
        rw [later.numbers, lastStored_cons, if_neg refused, numberAt, store,
          OrderedMap.find?_set]
        by_cases reached : field = .bassBoost ∨ profile = other <;>
          by_cases same : written = field <;>
          simp [reached, same, ProfileField.key_eq_iff, numberAt]

/-- Two texts of a profile's own, under the properties that its name gives. -/
theorem persistPair (up : plugin.Up) {first second : ProfileField}
    (own : first ≠ .bassBoost ∧ second ≠ .bassBoost) (profile firstText secondText : String) :
    Gives plugin profile [(first, firstText), (second, secondText)]
      (plugin.persistProperties
        [(generateProfileProperty profile first.property, firstText),
          (generateProfileProperty profile second.property, secondText)]).2 := by
  rw [← ProfileField.key_own profile own.1, ← ProfileField.key_own profile own.2]
  exact persist up profile [(first, firstText), (second, secondText)]

section Told

variable {persist : Plugin σ → Except CoreError Unit × Plugin σ}

theorem acceptMs12 (hal : Ms12Hal σ) (up : plugin.Up) (handle : Int) (call : DsMs12Call)
    (keeps : ∀ state, Gives { plugin with hal := state } profile texts
      (persist { plugin with hal := state }).2) :
    Gives plugin profile (if (hal.call plugin.hal handle call).1.isOk then texts else [])
      (plugin.acceptMs12 hal handle call persist).2 := by
  unfold Plugin.acceptMs12
  generalize hal.call plugin.hal handle call = called
  obtain ⟨_ | _, state⟩ := called
  · exact withHal up profile state
  · exact (withHal up profile state).trans (keeps state)

theorem tellMs12 (hal : Ms12ProfileHal σ) (up : plugin.Up) (handle : Int) (call : DsMs12Call)
    (keeps : ∀ state, Gives { plugin with hal := state } profile texts
      (persist { plugin with hal := state }).2) :
    Gives plugin profile (if (hal.call plugin.hal handle call).1.isOk then texts else [])
      (plugin.tellMs12 hal handle call persist).2 := by
  unfold Plugin.tellMs12
  generalize hal.call plugin.hal handle call = called
  obtain ⟨_ | _, state⟩ := called
  · exact withHal up profile state
  · exact (withHal up profile state).trans (keeps state)

/-- A call that is refused or not found gives nothing. -/
theorem resolved {hal : Ms12ProfileHal σ} (up : plugin.Up) {handle : Int} {call : DsMs12Call}
    {setting : Ms12Setting} (about : call.setting = setting)
    {refused told : Except CoreError Unit × Plugin σ} (unchanged : refused.2 = plugin)
    (gives : Gives plugin profile (if (hal.call plugin.hal handle call).1.isOk then texts else [])
      told.2) :
    Gives plugin profile (givenIf hal plugin handle call texts)
      (if hal.resolves setting = false then refused else told).2 := by
  subst about
  unfold givenIf takes
  cases hal.resolves call.setting with
  | false =>
      rw [if_pos rfl, unchanged]
      exact refl up profile
  | true => exact gives

end Told
end Gives

section Steps

variable {hal : Ms12ProfileHal σ} {plugin : Plugin σ} (up : plugin.Up)

include up

theorem guardInitialized_eq (body : Plugin σ → Except CoreError Unit × Plugin σ) :
    plugin.guardInitialized body = body plugin := by
  rw [Plugin.guardInitialized, if_neg (by simp [up.initialized])]

theorem getCurrentProfileProperty_eq (property : String) :
    plugin.getCurrentProfileProperty property =
      (generateProfileProperty (currentProfile plugin.store) property, plugin) :=
  Plugin.getCurrentProfileProperty_of_ready up.ready property

/-- What a setter of the current profile stores. -/
theorem gives_setMs12Setting (handle : Int) (call : DsMs12Call)
    {texts : List (ProfileField × String)}
    {persist : Plugin σ → Except CoreError Unit × Plugin σ}
    (persists : ∀ state, (persist { plugin with hal := state }).2 =
      (Plugin.persistProperties { plugin with hal := state }
        (texts.map fun entry => (entry.1.key (currentProfile plugin.store), entry.2))).2) :
    Gives plugin (currentProfile plugin.store) (givenIf hal plugin handle call texts)
      (plugin.guardInitialized fun plugin =>
        plugin.setMs12Setting hal.toMs12Hal handle call persist).2 := by
  rw [guardInitialized_eq up]
  refine Gives.resolved up rfl rfl (Gives.acceptMs12 hal.toMs12Hal up handle call fun state => ?_)
  rw [persists]
  exact Gives.persist (up.withHal state) _ texts

theorem gives_resetSingle (handle : Int) {setting : Ms12Setting} (call : Int → DsMs12Call)
    (about : ∀ value, (call value).setting = setting) (field : ProfileField)
    {key : String → String}
    (kept : key (generateProfileProperty (currentProfile plugin.store) field.property) =
      field.key (currentProfile plugin.store)) :
    Gives plugin (currentProfile plugin.store)
      (givenIf hal plugin handle (call (atoi (currentDefault plugin.store field)))
        [(field, currentDefault plugin.store field)])
      (plugin.resetSingle hal.toMs12Hal handle setting call field.property key).2 := by
  rw [Plugin.resetSingle, guardInitialized_eq up]
  refine Gives.resolved up (about _) rfl ?_
  dsimp only
  rw [getCurrentProfileProperty_eq up]
  dsimp only
  rw [Plugin.defaultOrZero_of_ready up.ready (generateProfileProperty_ne _ _), kept]
  refine Gives.acceptMs12 hal.toMs12Hal up handle _ fun state => ?_
  rw [Plugin.persistProperty_eq]
  exact Gives.persist (up.withHal state) _ [(field, _)]

theorem gives_resetPair (handle : Int) {setting : Ms12Setting} (call : Int → Int → DsMs12Call)
    (about : ∀ left right, (call left right).setting = setting) {mode level : ProfileField}
    (own : mode ≠ .bassBoost ∧ level ≠ .bassBoost) :
    Gives plugin (currentProfile plugin.store)
      (givenIf hal plugin handle
        (call (atoi (currentDefault plugin.store mode)) (atoi (currentDefault plugin.store level)))
        [(mode, currentDefault plugin.store mode), (level, currentDefault plugin.store level)])
      (plugin.resetPair hal.toMs12Hal handle setting call mode.property level.property).2 := by
  rw [Plugin.resetPair, guardInitialized_eq up]
  refine Gives.resolved up (about _ _) rfl ?_
  dsimp only
  rw [getCurrentProfileProperty_eq up]
  dsimp only
  rw [getCurrentProfileProperty_eq up]
  dsimp only
  rw [Plugin.defaultOrZero_of_ready up.ready (generateProfileProperty_ne _ _)]
  dsimp only
  rw [Plugin.defaultOrZero_of_ready up.ready (generateProfileProperty_ne _ _)]
  refine Gives.acceptMs12 hal.toMs12Hal up handle _ fun state => ?_
  exact Gives.persistPair (up.withHal state) own _ _ _

/-! ### Overrides -/

theorem gives_overrideSingle (handle : Int) {setting : Ms12Setting} (call : Int → DsMs12Call)
    (about : ∀ value, (call value).setting = setting) (field : ProfileField)
    {added : Plugin σ → String × Plugin σ} {restored : String → String}
    (adds : ∀ state, added { plugin with hal := state } =
      (field.key (currentProfile plugin.store), { plugin with hal := state }))
    (kept : restored (generateProfileProperty (currentProfile plugin.store) field.property) =
      field.key (currentProfile plugin.store)) (profileSettingValue profileState : String) :
    Gives plugin (currentProfile plugin.store)
      (givenSingle hal plugin handle call field profileSettingValue profileState)
      (plugin.overrideSingle hal handle setting call added
        (fun plugin => plugin.getCurrentProfileProperty field.property) restored
        profileSettingValue profileState).2 := by
  rw [Plugin.overrideSingle, givenSingle]
  by_cases adding : profileState = "ADD"
  · simp only [if_pos adding]
    refine Gives.resolved up (about _) rfl (Gives.tellMs12 hal up handle _ fun state => ?_)
    rw [adds, Plugin.persistProperty_eq]
    exact Gives.persist (up.withHal state) _ [(field, profileSettingValue)]
  · by_cases removing : profileState = "REMOVE"
    · simp only [if_neg adding, if_pos removing, getCurrentProfileProperty_eq up,
        Plugin.defaultOrZero_of_ready up.ready (generateProfileProperty_ne _ _), kept]
      refine Gives.resolved up (about _) rfl (Gives.tellMs12 hal up handle _ fun state => ?_)
      rw [Plugin.persistProperty_eq]
      exact Gives.persist (up.withHal state) _ [(field, currentDefault plugin.store field)]
    · simp only [if_neg adding, if_neg removing]
      split_ifs <;> exact Gives.refl up _

theorem gives_overrideMode {inRange : Int → Bool} {Within : Prop} [Decidable Within]
    {profileSettingValue : String} (within : inRange (atoi profileSettingValue) = decide Within)
    {field : ProfileField} (own : field ≠ .bassBoost) :
    Gives plugin (currentProfile plugin.store)
      (if Within then [(field, profileSettingValue)] else [])
      (plugin.overrideMode inRange field.property profileSettingValue).2 := by
  simp only [Plugin.overrideMode, within, decide_eq_true_eq]
  by_cases inside : Within
  · simp only [if_pos inside, getCurrentProfileProperty_eq up]
    rw [← ProfileField.key_own _ own, Plugin.persistProperty_eq]
    exact Gives.persist up _ [(field, profileSettingValue)]
  · simp only [if_neg inside]
    exact Gives.refl up _

theorem storedNumber_eq (field : ProfileField) (profile : String) :
    plugin.storedNumber (field.key profile) =
      ((numberAt plugin.store profile field).getD 0, plugin) := by
  simp only [Plugin.storedNumber, HostPersistence.getProperty, if_neg (ProfileField.key_ne field),
    HostPersistence.ensureInitialized_of_ready up.ready, numberAt]
  cases plugin.store.properties.find? (field.key profile) <;> rfl

theorem gives_overrideLevel (handle : Int) {setting : Ms12Setting} (call : Int → Int → DsMs12Call)
    (about : ∀ left right, (call left right).setting = setting) {mode level : ProfileField}
    (own : mode ≠ .bassBoost ∧ level ≠ .bassBoost) (profileSettingValue profileState : String) :
    Gives plugin (currentProfile plugin.store)
      (givenLevel hal plugin handle call mode level profileSettingValue profileState)
      (plugin.overrideLevel hal handle setting call mode.property level.property
        profileSettingValue profileState).2 := by
  rw [Plugin.overrideLevel, givenLevel]
  by_cases adding : profileState = "ADD"
  · simp only [if_pos adding, getCurrentProfileProperty_eq up]
    rw [← ProfileField.key_own _ own.1, storedNumber_eq up]
    refine Gives.resolved up (about _ _) rfl (Gives.tellMs12 hal up handle _ fun state => ?_)
    rw [getCurrentProfileProperty_eq (up.withHal state), ← ProfileField.key_own _ own.2,
      Plugin.persistProperty_eq]
    exact Gives.persist (up.withHal state) _ [(level, profileSettingValue)]
  · by_cases removing : profileState = "REMOVE"
    · simp only [if_neg adding, if_pos removing, getCurrentProfileProperty_eq up,
        Plugin.defaultOrZero_of_ready up.ready (generateProfileProperty_ne _ _)]
      refine Gives.resolved up (about _ _) rfl (Gives.tellMs12 hal up handle _ fun state => ?_)
      exact Gives.persistPair (up.withHal state) own _ _ _
    · simp only [if_neg adding, if_neg removing]
      split_ifs <;> exact Gives.refl up _

theorem gives_overrideActive (handle : Int)
    (profileSettingsName profileSettingValue profileState : String) :
    Gives plugin (currentProfile plugin.store)
      ((ProfileField.ofName profileSettingsName).elim []
        (givenActive hal plugin handle profileSettingValue profileState))
      (plugin.overrideActive hal handle profileSettingsName profileSettingValue
        profileState).2 := by
  cases named : ProfileField.ofName profileSettingsName with
  | none =>
      have other := ProfileField.ofName_eq_none_iff.mp named
      simp only [Plugin.overrideActive]
      rw [if_neg (show profileSettingsName ≠ "DialogEnhance" from other .enhancerLevel),
        if_neg (show profileSettingsName ≠ "VolumeLevellerMode" from other .volumeMode),
        if_neg (show profileSettingsName ≠ "VolumeLevellerLevel" from other .volumeLevel),
        if_neg (show profileSettingsName ≠ "BassEnhancer" from other .bassBoost),
        if_neg (show profileSettingsName ≠ "SurroundVirtualizerMode" from other .virtualizerMode),
        if_neg (show profileSettingsName ≠ "SurroundVirtualizerLevel" from
          other .virtualizerBoost)]
      exact Gives.refl up _
  | some field =>
      obtain rfl := ProfileField.ofName_eq_some named
      rw [Option.elim_some]
      cases field <;>
        simp only [Plugin.overrideActive, ProfileField.settingsName, String.reduceEq, if_true,
          if_false, givenActive]
      case enhancerLevel =>
          exact gives_overrideSingle up handle .dsSetDialogEnhancement (fun _ => rfl) .enhancerLevel
            (fun state => getCurrentProfileProperty_eq (up.withHal state) "EnhancerLevel") rfl _ _
      case bassBoost =>
          exact gives_overrideSingle up handle .dsSetBassEnhancer (fun _ => rfl) .bassBoost
            (fun _ => rfl) rfl _ _
      case volumeMode =>
          exact gives_overrideMode up (Bool.decide_congr Iff.rfl)
            (show ProfileField.volumeMode ≠ .bassBoost by decide)
      case volumeLevel =>
          exact gives_overrideLevel up handle .dsSetVolumeLeveller (fun _ _ => rfl)
            (show ProfileField.volumeMode ≠ .bassBoost ∧ ProfileField.volumeLevel ≠ .bassBoost by
              decide) _ _
      case virtualizerMode =>
          exact gives_overrideMode up (Bool.decide_congr Iff.rfl)
            (show ProfileField.virtualizerMode ≠ .bassBoost by decide)
      case virtualizerBoost =>
          exact gives_overrideLevel up handle .dsSetSurroundVirtualizer (fun _ _ => rfl)
            (show ProfileField.virtualizerMode ≠ .bassBoost ∧
              ProfileField.virtualizerBoost ≠ .bassBoost by decide) _ _

omit up in
theorem overrideProperty_eq (profileName profileSettingsName : String) :
    overrideProperty profileName profileSettingsName =
      (ProfileField.ofName profileSettingsName).map (ProfileField.key profileName) := by
  cases named : ProfileField.ofName profileSettingsName with
  | none =>
      rw [Option.map_none, Option.eq_none_iff_forall_ne_some]
      intro key accepted
      obtain ⟨field, same, -⟩ := ProfileField.overrideProperty_eq_some_iff.mp accepted
      exact ProfileField.ofName_eq_none_iff.mp named field same.symm
  | some field =>
      exact ProfileField.overrideProperty_eq_some_iff.mpr
        ⟨field, ProfileField.ofName_eq_some named, rfl⟩

theorem gives_overrideInactive
    (profileName profileSettingsName profileSettingValue profileState : String) :
    Gives plugin profileName
      ((ProfileField.ofName profileSettingsName).elim []
        (givenInactive plugin profileName profileSettingValue profileState))
      (plugin.overrideInactive profileName profileSettingsName profileSettingValue
        profileState).2 := by
  rw [Plugin.overrideInactive, overrideProperty_eq]
  cases ProfileField.ofName profileSettingsName with
  | none => exact Gives.refl up _
  | some field =>
      simp only [Option.map_some, Option.elim_some, givenInactive]
      by_cases adding : profileState = "ADD"
      · rw [if_pos adding, if_pos adding, Plugin.persistProperty_eq]
        exact Gives.persist up _ [(field, profileSettingValue)]
      · rw [if_neg adding, if_neg adding]
        by_cases removing : profileState = "REMOVE"
        · rw [if_pos removing, if_pos removing,
            Plugin.defaultOrZero_of_ready up.ready (ProfileField.key_ne field),
            Plugin.persistProperty_eq]
          exact Gives.persist up _
            [(field, defaultOr plugin.store.defaultProperties (field.key profileName))]
        · rw [if_neg removing, if_neg removing]
          exact Gives.refl up _

/-! ### Choices -/

omit up in
/-- Texts that stand for the numbers that are stored already. -/
theorem Gives.same {profile : String} {texts : List (ProfileField × String)} {after : Plugin σ}
    (gives : Gives plugin profile texts after)
    (again : ∀ field, ∀ number ∈ lastStored field texts,
      numberAt plugin.store profile field = some number) :
    Gives plugin profile [] after := by
  refine ⟨gives.up, fun other field => ?_⟩
  rw [gives.numbers]
  split_ifs with reached
  · cases told : lastStored field texts with
    | none => rfl
    | some number =>
        have here := again field number told
        have shared : field.key profile = field.key other :=
          ProfileField.key_eq_iff.mpr ⟨rfl, reached⟩
        rw [lastStored_nil, Option.none_or, Option.some_or, ← here, numberAt, numberAt, shared]
  · rfl

/-- A number is written back as it was understood. -/
theorem keeps_tellMs12 (handle : Int) (call : DsMs12Call) {profile : String}
    {texts : List (ProfileField × String)}
    (again : ∀ entry ∈ texts, numberAt plugin.store profile entry.1 = some (atoi entry.2)) :
    Gives plugin profile [] (plugin.tellMs12 hal handle call fun plugin =>
      plugin.persistProperties (texts.map fun entry => (entry.1.key profile, entry.2))).2 := by
  apply Gives.same (Gives.tellMs12 hal up handle call fun state =>
    Gives.persist (up.withHal state) profile texts)
  intro field number told
  split_ifs at told
  · obtain ⟨entry, listed, found⟩ := exists_of_lastOf told
    obtain ⟨rfl, same⟩ := Option.ite_none_right_eq_some.mp found
    rw [again entry (List.takeWhile_subset _ listed), Option.some.inj same]
  · cases told

theorem getProperty_field (profile : String) (field : ProfileField) :
    plugin.store.getProperty plugin.files (field.key profile) =
      ((plugin.store.properties.find? (field.key profile)).elim
        (.error ⟨"The Item IS NOT FOUND"⟩) .ok, plugin.store) := by
  rw [HostPersistence.getProperty, if_neg (ProfileField.key_ne field),
    HostPersistence.ensureInitialized_of_ready up.ready]
  cases plugin.store.properties.find? (field.key profile) <;> rfl

variable (hal)

theorem keeps_applySingle (handle : Int) (setting : Ms12Setting) (call : Int → DsMs12Call)
    (profile : String) (field : ProfileField) :
    Gives plugin profile [] (plugin.applySingle hal handle setting call (field.key profile)) := by
  rw [Plugin.applySingle, getProperty_field up]
  split_ifs with missing
  · exact Gives.refl up profile
  · cases stored : plugin.store.properties.find? (field.key profile) with
    | none => exact Gives.refl up profile
    | some value =>
        have again : ∀ entry ∈ [(field, toString (atoi value))],
            numberAt plugin.store profile entry.1 = some (atoi entry.2) := by
          intro entry listed
          rw [List.mem_singleton.mp listed, numberAt, stored, Option.map_some, atoi_toString_atoi]
        simp only [Option.elim_some, Plugin.persistProperty_eq]
        exact keeps_tellMs12 up handle (call (atoi value)) again

theorem keeps_applyPair (handle : Int) (setting : Ms12Setting) (call : Int → Int → DsMs12Call)
    (profile : String) (first second : ProfileField) :
    Gives plugin profile []
      (plugin.applyPair hal handle setting call (first.key profile) (second.key profile)) := by
  rw [Plugin.applyPair, getProperty_field up]
  split_ifs with missing
  · exact Gives.refl up profile
  · cases left : plugin.store.properties.find? (first.key profile) with
    | none => exact Gives.refl up profile
    | some leftValue =>
        dsimp only [Option.elim]
        rw [getProperty_field up]
        cases right : plugin.store.properties.find? (second.key profile) with
        | none => exact Gives.refl up profile
        | some rightValue =>
            have again : ∀ entry ∈ [(first, toString (atoi leftValue)),
                (second, toString (atoi rightValue))],
                numberAt plugin.store profile entry.1 = some (atoi entry.2) := by
              intro entry listed
              rcases List.mem_pair.mp listed with rfl | rfl
              · rw [numberAt, left, Option.map_some, atoi_toString_atoi]
              · rw [numberAt, right, Option.map_some, atoi_toString_atoi]
            exact keeps_tellMs12 up handle (call (atoi leftValue) (atoi rightValue)) again

theorem keeps_applyMS12ProfileSettingsOverride (handle : Int) {profile : String}
    (active : currentProfile plugin.store = profile) :
    Gives plugin profile [] (plugin.applyMS12ProfileSettingsOverride hal handle) := by
  simp only [Plugin.applyMS12ProfileSettingsOverride, getCurrentProfileProperty_eq up, active]
  have dialog := keeps_applySingle hal up handle .dialogEnhancement .dsSetDialogEnhancement profile
    .enhancerLevel
  have bass := keeps_applySingle hal dialog.up handle .bassEnhancer .dsSetBassEnhancer profile
    .bassBoost
  have volume := keeps_applyPair hal bass.up handle .volumeLeveller .dsSetVolumeLeveller profile
    .volumeMode .volumeLevel
  have virtualizer := keeps_applyPair hal volume.up handle .surroundVirtualizer
    .dsSetSurroundVirtualizer profile .virtualizerMode .virtualizerBoost
  exact ((dialog.trans bass).trans volume).trans virtualizer

/-- Choosing a profile changes no number of any. -/
theorem keeps_setAudioMS12Profile (handle : Int) (profile : String) :
    Gives plugin profile [] (plugin.setAudioMS12Profile hal handle profile).2 := by
  rw [Plugin.setAudioMS12Profile, guardInitialized_eq up]
  generalize hal.dsSetMS12AudioProfile plugin.hal handle profile = chosen
  obtain ⟨_ | _, state⟩ := chosen
  · exact Gives.withHal up profile state
  · dsimp only
    have up' : Plugin.Up { plugin with hal := state } := up.withHal state
    by_cases nameless : profile = ""
    · subst nameless
      rw [Plugin.persistProperty_refused up']
      exact Gives.withHal up _ state
    · obtain ⟨answer, written, -, store⟩ := Plugin.persistProperty_of_up up'
        (And.intro (show "audio.MS12Profile" ≠ "" by decide) nameless)
      generalize Plugin.persistProperty { plugin with hal := state } "audio.MS12Profile" profile =
        persisted at answer written store
      obtain ⟨outcome, next⟩ := persisted
      dsimp only at answer written store
      subst answer
      have kept : Gives plugin profile [] next := by
        refine ⟨written, fun other field => ?_⟩
        rw [numberAt, store, OrderedMap.find?_set, if_neg (ProfileField.key_ne_profile field).symm]
        simp [numberAt]
      have active : currentProfile next.store = profile := by
        rw [currentProfile, store, OrderedMap.find?_set, if_pos rfl, Option.getD_some]
      dsimp only
      split_ifs with on
      · exact kept.trans (keeps_applyMS12ProfileSettingsOverride hal written handle active)
      · exact kept

/-- What a call stores, and for which profile. -/
theorem gives_run (handle : Int) (call : ProfileCall) :
    Gives plugin (given hal plugin handle call).1 (given hal plugin handle call).2
      (call.run hal plugin handle).2 := by
  cases call with
  | setAudioDialogEnhancement level =>
      refine gives_setMs12Setting up handle _ fun state => ?_
      dsimp only
      rw [getCurrentProfileProperty_eq (up.withHal state), Plugin.persistProperty_eq]
      rfl
  | setAudioBassEnhancer boost =>
      refine gives_setMs12Setting up handle _ fun state => ?_
      rw [Plugin.persistProperty_eq]
      rfl
  | setAudioVolumeLeveller volumeLeveller =>
      obtain ⟨mode, level⟩ := volumeLeveller
      refine gives_setMs12Setting up handle _ fun state => ?_
      dsimp only
      rw [getCurrentProfileProperty_eq (up.withHal state)]
      dsimp only
      rw [getCurrentProfileProperty_eq (up.withHal state)]
      split_ifs <;> rfl
  | setAudioSurroudVirtualizer surroundVirtualizer =>
      obtain ⟨mode, boost⟩ := surroundVirtualizer
      refine gives_setMs12Setting up handle _ fun state => ?_
      dsimp only
      rw [getCurrentProfileProperty_eq (up.withHal state)]
      dsimp only
      rw [getCurrentProfileProperty_eq (up.withHal state)]
      split_ifs <;> rfl
  | resetAudioDialogEnhancement =>
      exact gives_resetSingle up handle .dsSetDialogEnhancement (fun _ => rfl) .enhancerLevel rfl
  | resetAudioBassEnhancer =>
      exact gives_resetSingle up handle .dsSetBassEnhancer (fun _ => rfl) .bassBoost rfl
  | resetAudioVolumeLeveller =>
      exact gives_resetPair up handle .dsSetVolumeLeveller (fun _ _ => rfl)
        (show ProfileField.volumeMode ≠ .bassBoost ∧ ProfileField.volumeLevel ≠ .bassBoost by
          decide)
  | resetAudioSurroundVirtualizer =>
      exact gives_resetPair up handle .dsSetSurroundVirtualizer (fun _ _ => rfl)
        (show ProfileField.virtualizerMode ≠ .bassBoost ∧
          ProfileField.virtualizerBoost ≠ .bassBoost by decide)
  | setAudioMS12Profile profile => exact keeps_setAudioMS12Profile hal up handle profile
  | setAudioMS12SettingsOverride profileName profileSettingsName profileSettingValue
      profileState =>
      have active : plugin.readProperty "audio.MS12Profile" "Off" =
          (storedValue plugin.store "audio.MS12Profile" "Off", plugin) :=
        Plugin.readProperty_of_ready up.ready (show "audio.MS12Profile" ≠ "" by decide) "Off"
      simp only [ProfileCall.run, Plugin.setAudioMS12SettingsOverride, guardInitialized_eq up,
        active, given]
      by_cases own : profileName = storedValue plugin.store "audio.MS12Profile" "Off"
      · rw [if_pos own, if_pos own]
        exact gives_overrideActive up handle _ _ _
      · rw [if_neg own, if_neg own]
        exact gives_overrideInactive up _ _ _ _

end Steps

/-! ### What is remembered -/

section Memory

variable {hal : Ms12ProfileHal σ} {start plugin : Plugin σ} {trace : List (ProfileStep σ)}

/-- Under each field of a profile is the number that was stored for it last. -/
theorem numberAt_run (run : (profileMachine hal).Run start trace plugin) (up : start.Up)
    (profile : String) (field : ProfileField) :
    plugin.Up ∧ numberAt plugin.store profile field =
      (lastOf (remembered hal profile field) trace).or (numberAt start.store profile field) := by
  induction run with
  | nil => exact ⟨up, rfl⟩
  | @snoc trace before action after effects _ taken ih =>
      obtain ⟨up', found⟩ := ih
      obtain ⟨rfl, -⟩ := Prod.mk.inj (Option.some.inj taken)
      have gives := gives_run hal up' action.1 action.2
      refine ⟨gives.up, ?_⟩
      rw [gives.numbers, found, lastOf_snoc, Option.or_assoc]
      rfl

/-- Whatever was set, reset, overridden and chosen before: choosing a profile tells the HAL, on the
handle it is chosen for, the numbers that were stored for this profile last. A call that is about
another profile leaves all of them alone but the bass boost. -/
theorem profile_remembers (run : (profileMachine hal).Run start trace plugin) (up : start.Up)
    {handle : Int} {profile : String} (chooses : Chooses hal plugin handle profile) :
    plugin.appliedBy hal handle profile =
      (profileCalls hal.resolves fun field =>
        (lastOf (remembered hal profile field) trace).or
          (numberAt start.store profile field)).map (Prod.mk handle) := by
  have numbers : numberAt plugin.store profile = fun field =>
      (lastOf (remembered hal profile field) trace).or (numberAt start.store profile field) :=
    funext fun field => (numberAt_run run up profile field).2
  rw [appliedBy_of_chooses (numberAt_run run up profile .bassBoost).1 chooses, numbers]

end Memory

/-- The dialog enhancement is set for one profile and another, and the bass boost is reset. -/
def MovieActive.settings : List (Int × ProfileCall) :=
  [(1, .setAudioDialogEnhancement 5), (1, .setAudioMS12Profile "Music"),
    (1, .setAudioDialogEnhancement 9), (1, .resetAudioBassEnhancer)]

theorem profile_remembers_movie :
    ∃ (trace : List (ProfileStep (Int → Ms12Setting → Option DsMs12Call)))
      (plugin : Plugin (Int → Ms12Setting → Option DsMs12Call)),
      trace.map Occurrence.action = MovieActive.settings ∧
      plugin.appliedBy Ms12Memory.profileHal 1 "Movie" =
        (profileCalls Ms12Memory.profileHal.resolves fun field =>
          (lastOf (remembered Ms12Memory.profileHal "Movie" field) trace).or
            (numberAt MovieActive.start.store "Movie" field)).map (Prod.mk 1) := by
  have played : (profileMachine Ms12Memory.profileHal).play MovieActive.start
      MovieActive.settings = some (_, [_, _, _, _]) := rfl
  exact ⟨_, _, rfl, profile_remembers (Machine.play_run played) MovieActive.up
    ⟨rfl, by decide, by decide⟩⟩

end DeviceSettings.Audio
