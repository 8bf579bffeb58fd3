import DeviceSettings.Audio.Reactivation
import DeviceSettings.Persistence.Processes

/-!
# Languages, fader balance and associated mixing

Four settings are set on a port and stored for all ports together. The next process sets what is
stored under the handle 0, whichever port it was set on.
-/

namespace DeviceSettings.Audio

open DeviceSettings.Std
open DeviceSettings.Persistence

/-- What the outside sees of a call. -/
inductive AssociatedOutput where
  | notifyAudioPrimaryLanguageChanged (primaryAudioLanguage : String)
  | notifyAudioSecondaryLanguageChanged (secondaryAudioLanguage : String)
  | notifyAudioFaderControlChanged (mixerBalance : Int32)
  | notifyAssociatedAudioMixingChanged (mixing : Bool)
  | returned (result : Except CoreError Unit)

/-- The object comes or goes, a call is made on it, or another component persists a property. -/
inductive AssociatedAction where
  | construct
  | destroy
  | setAudioPrimaryLanguage (handle : Int) (primaryAudioLanguage : String)
  | setAudioSecondaryLanguage (handle : Int) (secondaryAudioLanguage : String)
  | setAudioFaderControl (handle : Int) (mixerBalance : Int32)
  | setAssociatedAudioMixing (handle : Int) (mixing : Bool)
  | otherProperty (key value : String)
  deriving DecidableEq, Repr

namespace AudioProcess

variable {σ : Type}

/-- What the four calls do: the HAL is told, the text is stored, the listeners are told. An empty
text is refused behind the HAL. -/
def setAssociated (resolves : Bool) (tell : σ → Except DsError Unit × σ) (key text : String)
    (notify : AssociatedOutput) (process : AudioProcess σ) :
    AudioProcess σ × List AssociatedOutput :=
  if process.volume.plugin.audio.isInitialized && resolves then
    match tell process.volume.plugin.hal with
    | (.error _, state) =>
      ({ process with volume.plugin.hal := state }, [.returned (.error .general)])
    | (.ok _, state) =>
      match { process.volume.plugin with hal := state }.persistProperty key text with
      | (.error error, plugin) =>
        ({ process with volume.plugin := plugin }, [.returned (.error error)])
      | (.ok _, plugin) => ({ process with volume.plugin := plugin }, [notify, .returned (.ok ())])
  else (process, [.returned (.error .general)])

variable (hal : ActivationHal σ)

/-- `SetAudioPrimaryLanguage(handle, primaryAudioLanguage)`. -/
def setAudioPrimaryLanguage (handle : Int) (primaryAudioLanguage : String) :
    AudioProcess σ → AudioProcess σ × List AssociatedOutput :=
  setAssociated (hal.resolvesConfig .dsSetPrimaryLanguage)
    (fun state => hal.dsSetPrimaryLanguage state handle (cString primaryAudioLanguage.toList))
    "audio.PrimaryLanguage" primaryAudioLanguage
    (.notifyAudioPrimaryLanguageChanged primaryAudioLanguage)

/-- `SetAudioSecondaryLanguage(handle, secondaryAudioLanguage)`. -/
def setAudioSecondaryLanguage (handle : Int) (secondaryAudioLanguage : String) :
    AudioProcess σ → AudioProcess σ × List AssociatedOutput :=
  setAssociated (hal.resolvesConfig .dsSetSecondaryLanguage)
    (fun state => hal.dsSetSecondaryLanguage state handle (cString secondaryAudioLanguage.toList))
    "audio.SecondaryLanguage" secondaryAudioLanguage
    (.notifyAudioSecondaryLanguageChanged secondaryAudioLanguage)

/-- `SetAudioFaderControl(handle, mixerBalance)`. -/
def setAudioFaderControl (handle : Int) (mixerBalance : Int32) :
    AudioProcess σ → AudioProcess σ × List AssociatedOutput :=
  setAssociated (hal.resolvesConfig .dsSetFaderControl)
    (fun state => hal.dsSetFaderControl state handle mixerBalance.toInt)
    "audio.FaderControl" (toString mixerBalance.toInt)
    (.notifyAudioFaderControlChanged mixerBalance)

/-- `SetAssociatedAudioMixing(handle, mixing)`. -/
def setAssociatedAudioMixing (handle : Int) (mixing : Bool) :
    AudioProcess σ → AudioProcess σ × List AssociatedOutput :=
  setAssociated (hal.resolvesConfig .dsSetAssociatedAudioMixing)
    (fun state => hal.dsSetAssociatedAudioMixing state handle mixing)
    "audio.AssociatedAudioMixing" (if mixing then "Enabled" else "Disabled")
    (.notifyAssociatedAudioMixingChanged mixing)

/-- The calls on the object. -/
def call (process : AudioProcess σ) :
    AssociatedAction → Option (AudioProcess σ × List AssociatedOutput)
  | .setAudioPrimaryLanguage handle primaryAudioLanguage =>
    some (process.setAudioPrimaryLanguage hal handle primaryAudioLanguage)
  | .setAudioSecondaryLanguage handle secondaryAudioLanguage =>
    some (process.setAudioSecondaryLanguage hal handle secondaryAudioLanguage)
  | .setAudioFaderControl handle mixerBalance =>
    some (process.setAudioFaderControl hal handle mixerBalance)
  | .setAssociatedAudioMixing handle mixing =>
    some (process.setAssociatedAudioMixing hal handle mixing)
  | _ => none

/-- The store behind its first use. -/
def storeBehind (process : AudioProcess σ) : LoadedStore :=
  .ofStore process.volume.plugin.store process.volume.plugin.files

end AudioProcess

/-! ### The settings -/

/-- A setting that is stored without a port. -/
inductive AssociatedSetting where
  | primaryLanguage
  | secondaryLanguage
  | faderControl
  | associatedAudioMixing
  deriving DecidableEq, Repr

namespace AssociatedSetting

abbrev ofHal : AssociatedSetting → AudioSetting
  | .primaryLanguage => .primaryLanguage
  | .secondaryLanguage => .secondaryLanguage
  | .faderControl => .faderControl
  | .associatedAudioMixing => .associatedAudioMixing

def symbol : AssociatedSetting → ConfigSymbol
  | .primaryLanguage => .dsSetPrimaryLanguage
  | .secondaryLanguage => .dsSetSecondaryLanguage
  | .faderControl => .dsSetFaderControl
  | .associatedAudioMixing => .dsSetAssociatedAudioMixing

def func : AssociatedSetting → StaticFunc
  | .primaryLanguage => .dsSetPrimaryLanguageFunc
  | .secondaryLanguage => .dsSetSecondaryLanguageFunc
  | .faderControl => .dsSetFaderControlFunc
  | .associatedAudioMixing => .dsSetAssociatedAudioMixingFunc

def key : AssociatedSetting → String
  | .primaryLanguage => "audio.PrimaryLanguage"
  | .secondaryLanguage => "audio.SecondaryLanguage"
  | .faderControl => "audio.FaderControl"
  | .associatedAudioMixing => "audio.AssociatedAudioMixing"

/-- The properties that other components leave alone. -/
def keys : List String :=
  [key .primaryLanguage, key .secondaryLanguage, key .faderControl, key .associatedAudioMixing]

theorem key_ne (setting : AssociatedSetting) : setting.key ≠ "" := by
  cases setting <;> decide

theorem readable_key (setting : AssociatedSetting) : Readable setting.key := by
  cases setting <;> decide

theorem key_mem_keys (setting : AssociatedSetting) : setting.key ∈ keys := by
  cases setting <;> decide

theorem key_ne_key {setting other : AssociatedSetting} (different : setting ≠ other) :
    setting.key ≠ other.key := by
  cases setting <;> cases other <;> first | exact absurd rfl different | decide

/-- What is set where nothing is stored. -/
def fallback : AssociatedSetting → String
  | .primaryLanguage | .secondaryLanguage => "eng"
  | .faderControl => "0"
  | .associatedAudioMixing => "Disabled"

theorem ofHal_injective {setting other : AssociatedSetting} (same : setting.ofHal = other.ofHal) :
    setting = other := by
  cases setting <;> cases other <;> first | rfl | cases same

/-- What the startup code makes of a stored text. -/
def value : (setting : AssociatedSetting) → String → setting.ofHal.Value
  | .primaryLanguage, text | .secondaryLanguage, text => text
  | .faderControl, text => atoi text
  | .associatedAudioMixing, text => decide (text = "Enabled")

end AssociatedSetting

/-- The handle and the value with which an action is about a setting. -/
def AssociatedAction.sets :
    (setting : AssociatedSetting) → AssociatedAction → Option (Int × setting.ofHal.Value)
  | .primaryLanguage, .setAudioPrimaryLanguage handle primaryAudioLanguage =>
    some (handle, cString primaryAudioLanguage.toList)
  | .secondaryLanguage, .setAudioSecondaryLanguage handle secondaryAudioLanguage =>
    some (handle, cString secondaryAudioLanguage.toList)
  | .faderControl, .setAudioFaderControl handle mixerBalance => some (handle, mixerBalance.toInt)
  | .associatedAudioMixing, .setAssociatedAudioMixing handle mixing => some (handle, mixing)
  | _, _ => none

/-- The statics of a process, and whether the object is there. -/
structure AssociatedProcess (σ : Type) where
  audio : AudioProcess σ
  isConstructed : Bool

/-- One step; there is one object at a time. -/
def AssociatedProcess.step {σ : Type} (hal : ActivationHal σ) (build : AudioBuild)
    (process : AssociatedProcess σ) (action : AssociatedAction) :
    Option (AssociatedProcess σ × List AssociatedOutput) :=
  match action with
  | .construct =>
    if process.isConstructed then none else some (⟨process.audio.construct hal build, true⟩, [])
  | .destroy =>
    if process.isConstructed then some (⟨process.audio.destroy hal, false⟩, []) else none
  | .otherProperty key value =>
    if key ∈ AssociatedSetting.keys then none
    else
      some ({ process with
        audio.volume.plugin := (process.audio.volume.plugin.persistProperty key value).2 }, [])
  | action =>
    if process.isConstructed then
      (process.audio.call hal action).map fun called =>
        ({ process with audio := called.1 }, called.2)
    else none

/-- The audio component in one process, as far as these settings go. -/
def associatedAudio {σ : Type} (hal : ActivationHal σ) (build : AudioBuild) :
    Machine (AssociatedProcess σ) AssociatedAction AssociatedOutput :=
  ⟨AssociatedProcess.step hal build⟩

abbrev AssociatedStep (σ : Type) :=
  Occurrence (AssociatedProcess σ) AssociatedAction AssociatedOutput

/-- What a step can do. -/
inductive AssociatedMove {σ : Type} (hal : ActivationHal σ) (build : AudioBuild)
    (before : AssociatedProcess σ) :
    AssociatedAction → AssociatedProcess σ → List AssociatedOutput → Prop where
  | construct (absent : before.isConstructed = false) :
    AssociatedMove hal build before .construct ⟨before.audio.construct hal build, true⟩ []
  | destroy (there : before.isConstructed = true) :
    AssociatedMove hal build before .destroy ⟨before.audio.destroy hal, false⟩ []
  | otherProperty {key : String} (value : String) (other : key ∉ AssociatedSetting.keys) :
    AssociatedMove hal build before (.otherProperty key value)
      { before with
        audio.volume.plugin := (before.audio.volume.plugin.persistProperty key value).2 } []
  | call {action : AssociatedAction} {called : AudioProcess σ} {effects : List AssociatedOutput}
    (there : before.isConstructed = true)
    (taken : before.audio.call hal action = some (called, effects)) :
    AssociatedMove hal build before action { before with audio := called } effects

theorem associatedMove_of_step {σ : Type} {hal : ActivationHal σ} {build : AudioBuild}
    {before after : AssociatedProcess σ} {action : AssociatedAction}
    {effects : List AssociatedOutput}
    (taken : (associatedAudio hal build).step before action = some (after, effects)) :
    AssociatedMove hal build before action after effects := by
  cases action with
  | construct =>
      simp only [associatedAudio, AssociatedProcess.step] at taken
      split_ifs at taken with there
      obtain ⟨rfl, rfl⟩ := Prod.mk.inj (Option.some.inj taken)
      exact .construct (Bool.eq_false_iff.mpr there)
  | destroy =>
      simp only [associatedAudio, AssociatedProcess.step] at taken
      split_ifs at taken with there
      obtain ⟨rfl, rfl⟩ := Prod.mk.inj (Option.some.inj taken)
      exact .destroy there
  | otherProperty key value =>
      simp only [associatedAudio, AssociatedProcess.step] at taken
      split_ifs at taken with other
      obtain ⟨rfl, rfl⟩ := Prod.mk.inj (Option.some.inj taken)
      exact .otherProperty value other
  | setAudioPrimaryLanguage | setAudioSecondaryLanguage | setAudioFaderControl
  | setAssociatedAudioMixing =>
      simp only [associatedAudio, AssociatedProcess.step] at taken
      split_ifs at taken with there
      obtain ⟨⟨called, outputs⟩, calls, same⟩ := Option.map_eq_some_iff.mp taken
      obtain ⟨rfl, rfl⟩ := Prod.mk.inj same
      exact .call there calls

/-! ### The calls -/

section Calls

variable {σ : Type} {process after : AudioProcess σ} {hal : ActivationHal σ}
  {action : AssociatedAction} {effects : List AssociatedOutput}

def AssociatedOutput.succeeded : AssociatedOutput → Bool
  | .returned (.ok _) => true
  | _ => false

/-- The text that an action stores for a setting. -/
def AssociatedAction.text : AssociatedSetting → AssociatedAction → Option String
  | .primaryLanguage, .setAudioPrimaryLanguage _ primaryAudioLanguage => some primaryAudioLanguage
  | .secondaryLanguage, .setAudioSecondaryLanguage _ secondaryAudioLanguage =>
    some secondaryAudioLanguage
  | .faderControl, .setAudioFaderControl _ mixerBalance => some (toString mixerBalance.toInt)
  | .associatedAudioMixing, .setAssociatedAudioMixing _ mixing =>
    some (if mixing then "Enabled" else "Disabled")
  | _, _ => none

theorem storeBehind_persistProperty (plugin : Plugin σ) (key value : String) :
    LoadedStore.ofStore (plugin.persistProperty key value).2.store
        (plugin.persistProperty key value).2.files =
      (LoadedStore.ofStore plugin.store plugin.files).persist key value := by
  rw [persistProperty_snd]
  exact LoadedStore.ofStore_persistHostProperty plugin.store plugin.files key value

theorem persistProperty_fst (plugin : Plugin σ) {key : String} (named : key ≠ "")
    (text : String) :
    (plugin.persistProperty key text).1 = if text = "" then .error .general else .ok () := by
  have answer := HostPersistence.persistHostProperty_ok_iff plugin.store plugin.files key text
  unfold Plugin.persistProperty
  generalize plugin.store.persistHostProperty plugin.files key text = persisted at answer ⊢
  obtain ⟨_ | _, store, files⟩ := persisted
  · have refused : text = "" := by simpa [named] using answer
    rw [if_pos refused]
  · rw [if_neg (answer.mp rfl).2]

/-- A call stores its text and succeeds, or does neither. -/
structure Called (process : AudioProcess σ) (key text : String) (effects : List AssociatedOutput)
    (after : AudioProcess σ) : Prop where
  audio : after.volume.plugin.audio = process.volume.plugin.audio
  outcome :
    (text ≠ "" ∧ effects.any AssociatedOutput.succeeded = true ∧
        after.storeBehind = process.storeBehind.persist key text) ∨
      (effects.any AssociatedOutput.succeeded = false ∧ after.storeBehind = process.storeBehind)

theorem called_setAssociated {resolves : Bool} {tell : σ → Except DsError Unit × σ}
    {key text : String} (named : key ≠ "") {notify : AssociatedOutput}
    (result : process.setAssociated resolves tell key text notify = (after, effects)) :
    Called process key text effects after := by
  unfold AudioProcess.setAssociated at result
  split_ifs at result
  · generalize tell process.volume.plugin.hal = told at result
    obtain ⟨_ | _, state⟩ := told
    · obtain ⟨rfl, rfl⟩ := Prod.mk.inj result
      exact ⟨rfl, .inr ⟨rfl, rfl⟩⟩
    · have stored :=
        storeBehind_persistProperty { process.volume.plugin with hal := state } key text
      have answer := persistProperty_fst { process.volume.plugin with hal := state } named text
      have kept : (Plugin.persistProperty { process.volume.plugin with hal := state } key
          text).2.audio = process.volume.plugin.audio := by rw [persistProperty_snd]
      dsimp only at result
      generalize Plugin.persistProperty { process.volume.plugin with hal := state } key text =
        persisted at stored answer kept result
      obtain ⟨_ | _, plugin⟩ := persisted
      · obtain ⟨rfl, rfl⟩ := Prod.mk.inj result
        by_cases empty : text = ""
        · subst empty
          exact ⟨kept, .inr ⟨rfl, stored.trans (LoadedStore.persist_empty _ key)⟩⟩
        · simp [empty] at answer
      · obtain ⟨rfl, rfl⟩ := Prod.mk.inj result
        by_cases empty : text = ""
        · simp [empty] at answer
        · exact ⟨kept, .inl ⟨empty, by simp [AssociatedOutput.succeeded], stored⟩⟩
  · obtain ⟨rfl, rfl⟩ := Prod.mk.inj result
    exact ⟨rfl, .inr ⟨rfl, rfl⟩⟩

/-- A call is about one setting. -/
theorem called_call (called : process.call hal action = some (after, effects)) :
    ∃ (about : AssociatedSetting) (text : String),
      (∀ setting, action.text setting = if setting = about then some text else none) ∧
        Called process about.key text effects after := by
  cases action with
  | construct | destroy => simp [AudioProcess.call] at called
  | otherProperty key value => simp [AudioProcess.call] at called
  | setAudioPrimaryLanguage handle language =>
      exact ⟨.primaryLanguage, language, fun setting => by cases setting <;> rfl,
        called_setAssociated (AssociatedSetting.key_ne _) (Option.some.inj called)⟩
  | setAudioSecondaryLanguage handle language =>
      exact ⟨.secondaryLanguage, language, fun setting => by cases setting <;> rfl,
        called_setAssociated (AssociatedSetting.key_ne _) (Option.some.inj called)⟩
  | setAudioFaderControl handle balance =>
      exact ⟨.faderControl, toString balance.toInt, fun setting => by cases setting <;> rfl,
        called_setAssociated (AssociatedSetting.key_ne _) (Option.some.inj called)⟩
  | setAssociatedAudioMixing handle mixing =>
      exact ⟨.associatedAudioMixing, if mixing then "Enabled" else "Disabled",
        fun setting => by cases setting <;> rfl,
        called_setAssociated (AssociatedSetting.key_ne _) (Option.some.inj called)⟩

/-- What an action asks the HAL to set under a handle. -/
def AssociatedAction.setsUnder (setting : AssociatedSetting) (handle : Int)
    (action : AssociatedAction) : Option setting.ofHal.Value :=
  (action.sets setting).bind fun target => if target.1 = handle then some target.2 else none

theorem setAssociated_hal {resolves : Bool} {tell : σ → Except DsError Unit × σ}
    {key text : String} {notify : AssociatedOutput}
    (up : process.volume.plugin.audio.isInitialized = true)
    (tells : (tell process.volume.plugin.hal).1 = .ok ())
    (result : process.setAssociated resolves tell key text notify = (after, effects)) :
    after.volume.plugin.hal =
      if resolves then (tell process.volume.plugin.hal).2 else process.volume.plugin.hal := by
  unfold AudioProcess.setAssociated at result
  rw [up, Bool.true_and] at result
  split_ifs at result ⊢
  · generalize tell process.volume.plugin.hal = told at tells result ⊢
    obtain ⟨_ | _, state⟩ := told
    · cases tells
    · have kept := Plugin.persistProperty_hal { process.volume.plugin with hal := state } key text
      dsimp only at result
      generalize Plugin.persistProperty { process.volume.plugin with hal := state } key text =
        persisted at kept result
      obtain ⟨_ | _, plugin⟩ := persisted <;>
        · obtain ⟨rfl, -⟩ := Prod.mk.inj result
          exact kept
  · obtain ⟨rfl, -⟩ := Prod.mk.inj result
    rfl

/-- The HAL has what it was asked to set, also where the call fails on an empty text. -/
theorem held_call {held : σ → HalAudioSettings} {unset : HalAudioSettings}
    (stores : hal.Stores held unset) (up : process.volume.plugin.audio.isInitialized = true)
    (called : process.call hal action = some (after, effects)) {setting : AssociatedSetting}
    (resolved : hal.resolvesConfig setting.symbol = true) (handle : Int) :
    held after.volume.plugin.hal setting.ofHal handle =
      (action.setsUnder setting handle).getD
        (held process.volume.plugin.hal setting.ofHal handle) := by
  have told : ∀ (about : AssociatedSetting) (own : Int) (value : about.ofHal.Value)
      {tell : σ → Except DsError Unit × σ} {key text : String} {notify : AssociatedOutput},
      ((tell process.volume.plugin.hal).1 = .ok () ∧ held (tell process.volume.plugin.hal).2 =
        (held process.volume.plugin.hal).set about.ofHal own value) →
      action.sets setting = (if same : about = setting then some (own, same ▸ value) else none) →
      process.setAssociated (hal.resolvesConfig about.symbol) tell key text notify =
        (after, effects) →
      held after.volume.plugin.hal setting.ofHal handle =
        (action.setsUnder setting handle).getD
          (held process.volume.plugin.hal setting.ofHal handle) := by
    rintro about own value tell key text notify ⟨tells, set⟩ sets result
    rw [setAssociated_hal up tells result, AssociatedAction.setsUnder, sets]
    by_cases same : about = setting
    · subst same
      rw [if_pos resolved, set]
      simp only [HalAudioSettings.set, Function.update_self, dif_pos, Option.bind_some]
      by_cases here : handle = own
      · simp [here]
      · rw [Function.update_of_ne here, if_neg (Ne.symm here), Option.getD_none]
    · rw [dif_neg same, Option.bind_none, Option.getD_none]
      split_ifs
      · rw [set, HalAudioSettings.set, Function.update_of_ne]
        exact fun hal => same (AssociatedSetting.ofHal_injective hal.symm)
      · rfl
  cases action with
  | construct | destroy => simp [AudioProcess.call] at called
  | otherProperty key value => simp [AudioProcess.call] at called
  | setAudioPrimaryLanguage own language =>
      exact told .primaryLanguage own _ (stores.setsPrimaryLanguage _ own _)
        (by cases setting <;> rfl) (Option.some.inj called)
  | setAudioSecondaryLanguage own language =>
      exact told .secondaryLanguage own _ (stores.setsSecondaryLanguage _ own _)
        (by cases setting <;> rfl) (Option.some.inj called)
  | setAudioFaderControl own balance =>
      exact told .faderControl own _ (stores.setsFaderControl _ own _)
        (by cases setting <;> rfl) (Option.some.inj called)
  | setAssociatedAudioMixing own mixing =>
      exact told .associatedAudioMixing own _ (stores.setsAssociatedAudioMixing _ own _)
        (by cases setting <;> rfl) (Option.some.inj called)

end Calls

/-! ### What is stored -/

section Stored

variable {σ : Type} {hal : ActivationHal σ} {build : AudioBuild}

/-- The text that a step has stored. -/
def storedText? (setting : AssociatedSetting) (step : AssociatedStep σ) : Option String :=
  if step.effects.any AssociatedOutput.succeeded then step.action.text setting else none

/-- The value of the last call that succeeds. -/
def accepted (setting : AssociatedSetting) (step : AssociatedStep σ) :
    Option setting.ofHal.Value :=
  if step.effects.any AssociatedOutput.succeeded then (step.action.sets setting).map Prod.snd
  else none

/-- What is persisted is read back; an empty language is refused. A constructor may persist the
profile of the system. -/
def ReadsBack (step : AssociatedStep σ) : Prop :=
  match step.action with
  | .construct => ∀ value,
    step.before.audio.loaded.findDefault? "audio.MS12Profile" = some value → Readable value
  | .setAudioPrimaryLanguage _ language | .setAudioSecondaryLanguage _ language =>
    language ≠ "" → Readable language
  | .otherProperty key value => Readable key ∧ Readable value
  | _ => True

theorem readable_text {step : AssociatedStep σ} (readsBack : ReadsBack step)
    {setting : AssociatedSetting} {text : String} (texts : step.action.text setting = some text)
    (nonempty : text ≠ "") : Readable text := by
  obtain ⟨before, action, effects, after⟩ := step
  cases setting <;> cases action <;> cases texts
  · exact readsBack nonempty
  · exact readsBack nonempty
  · rename_i balance
    exact readable_toString_int balance.le_toInt balance.toInt_lt
  · split_ifs <;> decide

/-- The startup code makes the value of the call out of its text. -/
theorem value_text {action : AssociatedAction} {setting : AssociatedSetting} {text : String}
    (texts : action.text setting = some text) (readable : Readable text) :
    (action.sets setting).map Prod.snd = some (setting.value text) := by
  cases setting <;> cases action <;> cases texts
  · exact congrArg some (String.ext (cString_eq_self readable.2))
  · exact congrArg some (String.ext (cString_eq_self readable.2))
  · rename_i balance
    exact congrArg some (atoi_toString_int balance.le_toInt balance.toInt_lt).symm
  · rename_i mixing
    cases mixing <;> rfl

theorem sets_eq_none {action : AssociatedAction} {setting : AssociatedSetting}
    (other : action.text setting = none) : action.sets setting = none := by
  cases setting <;> cases action <;> first | rfl | cases other

/-- A constructor leaves the settings in the store as they are. -/
theorem leftBehind_keeps {loaded : LoadedStore} (durable : loaded.Durable)
    (profile : ∀ value, loaded.findDefault? "audio.MS12Profile" = some value → Readable value)
    (state : σ) (statics : StaticFunc → Bool) :
    (leftBehind hal build state statics loaded).Durable ∧
      ∀ setting : AssociatedSetting,
        (leftBehind hal build state statics loaded).find? setting.key =
          loaded.find? setting.key := by
  have behindLE : (storeBehindLE hal build state loaded).Durable := by
    have readable : Readable "audio.LEEnable" ∧ Readable build.leDefault := by
      unfold AudioBuild.leDefault
      split_ifs <;> decide
    unfold storeBehindLE
    split_ifs
    · exact durable.persist readable
    · exact durable
  have kept : ∀ setting : AssociatedSetting,
      (storeBehindLE hal build state loaded).find? setting.key = loaded.find? setting.key :=
    fun setting => (storeBehindLE_find? build state loaded (by cases setting <;> decide)).1
  have default := (@storeBehindLE_find? σ hal build state loaded "audio.MS12Profile"
    (by decide)).2
  unfold leftBehind storeBehindProfile
  split_ifs
  · refine ⟨behindLE.persist ⟨by decide, ?_⟩, fun setting => ?_⟩
    · have readable : ∀ value, (storeBehindLE hal build state loaded).findDefault?
          "audio.MS12Profile" = some value → Readable value := fun value found =>
        profile value (default ▸ found)
      have stored := fun value => behindLE.readable "audio.MS12Profile" value
      unfold storedValue
      unfold LoadedStore.findDefault? at readable
      unfold LoadedStore.find? at stored
      cases found : (storeBehindLE hal build state loaded).store.properties.find?
        "audio.MS12Profile" with
      | some value => exact (stored value found).2
      | none =>
          cases system : (storeBehindLE hal build state loaded).store.defaultProperties.find?
            "audio.MS12Profile" with
          | some value => exact readable value system
          | none => exact (by decide : Readable "Off")
    · rw [LoadedStore.find?_persist_of_ne _ (by cases setting <;> decide)]
      exact kept setting
  · exact ⟨behindLE, kept⟩

theorem loaded_eq (process : AudioProcess σ) : process.loaded = process.storeBehind.reload :=
  LoadedStore.ofStore_load _ _

theorem storeBehind_construct {held : σ → HalAudioSettings} {unset : HalAudioSettings}
    (stores : hal.Stores held unset) (process : AudioProcess σ) :
    (process.construct hal build).storeBehind =
      leftBehind hal build process.volume.plugin.hal process.statics
        process.storeBehind.reload := by
  have activated := activated_construct stores build process.volume.plugin.hal process
  unfold AudioProcess.storeBehind
  rw [activated.store, activated.files, LoadedStore.ofStore_store, loaded_eq]
  rfl

theorem storeBehind_destroy (process : AudioProcess σ) :
    (process.destroy hal).storeBehind = process.storeBehind := by
  unfold AudioProcess.destroy
  dsimp only
  split_ifs <;> rfl

/-- The audio component in the processes of a device. -/
def associatedProcess (hal : ActivationHal σ) (build : AudioBuild) :
    Process (AssociatedProcess σ) AssociatedAction AssociatedOutput where
  machine := associatedAudio hal build
  storeOf process := process.audio.storeBehind
  Starts store process := process.audio.storeBehind = store ∧
    process.audio.statics = (fun _ => false) ∧ process.isConstructed = false
  opens _ _ starts := starts.1

variable {held : σ → HalAudioSettings} {unset : HalAudioSettings}
  {before after : AssociatedProcess σ} {action : AssociatedAction} {effects : List AssociatedOutput}

theorem stored_call {process called : AudioProcess σ}
    (taken : process.call hal action = some (called, effects)) {start finish : AssociatedProcess σ}
    (readsBack : ReadsBack ⟨start, action, effects, finish⟩) (durable : process.storeBehind.Durable)
    (setting : AssociatedSetting) :
    called.storeBehind.Durable ∧ called.storeBehind.find? setting.key =
      (storedText? setting ⟨start, action, effects, finish⟩).or
        (process.storeBehind.find? setting.key) := by
  obtain ⟨about, text, texts, calls⟩ := called_call taken
  unfold storedText?
  rcases calls.outcome with ⟨nonempty, succeeded, stored⟩ | ⟨failed, stored⟩
  · have readable : Readable text := readable_text readsBack
      ((texts about).trans (if_pos rfl)) nonempty
    rw [stored, if_pos succeeded, texts]
    refine ⟨durable.persist ⟨about.readable_key, readable⟩, ?_⟩
    rw [LoadedStore.find?_persist _ ⟨about.key_ne, nonempty⟩]
    by_cases same : setting = about
    · subst same
      simp
    · rw [if_neg (AssociatedSetting.key_ne_key (Ne.symm same)), if_neg same, Option.none_or]
  · rw [stored, failed]
    exact ⟨durable, rfl⟩

/-- What is stored for a setting is a register. -/
def settingRegister (stores : hal.Stores held unset) (setting : AssociatedSetting) :
    (associatedProcess hal build).Register (Option String) where
  found store := store.find? setting.key
  written step := (storedText? setting step).map some
  Meets := ReadsBack
  found_congr same := same setting.key
  step := by
    intro before action effects after taken readsBack durable
    change before.audio.storeBehind.Durable at durable
    change after.audio.storeBehind.Durable ∧ after.audio.storeBehind.find? setting.key = _
    cases associatedMove_of_step taken with
    | construct absent =>
        have kept := @leftBehind_keeps σ hal build _ durable.reload
          (loaded_eq before.audio ▸ readsBack) before.audio.volume.plugin.hal before.audio.statics
        rw [storeBehind_construct stores]
        refine ⟨kept.1, (kept.2 setting).trans ?_⟩
        unfold LoadedStore.find?
        rw [durable.properties_reload]
        rfl
    | destroy there =>
        rw [storeBehind_destroy]
        exact ⟨durable, rfl⟩
    | @otherProperty key value other =>
        have stored := storeBehind_persistProperty before.audio.volume.plugin key value
        have different : key ≠ setting.key := fun same => other (same ▸ setting.key_mem_keys)
        refine ⟨?_, ?_⟩
        · exact (congrArg LoadedStore.Durable stored).mpr (durable.persist readsBack)
        · refine (congrArg (fun store => LoadedStore.find? store setting.key) stored).trans ?_
          rw [LoadedStore.find?_persist_of_ne _ different]
          rfl
    | call there called =>
        obtain ⟨kept, found⟩ := stored_call called readsBack durable setting
        refine ⟨kept, found.trans ?_⟩
        cases storedText? setting _ <;> rfl

/-- What a call that succeeds has stored is made into its value again. -/
theorem accepted_eq {step : AssociatedStep σ}
    (taken : (associatedAudio hal build).step step.before step.action =
      some (step.after, step.effects)) (readsBack : ReadsBack step) (setting : AssociatedSetting) :
    accepted setting step = (storedText? setting step).map setting.value := by
  obtain ⟨before, action, effects, after⟩ := step
  unfold accepted storedText?
  dsimp only at taken ⊢
  cases associatedMove_of_step taken with
  | construct | destroy | otherProperty => rfl
  | call there called =>
      obtain ⟨about, text, texts, calls⟩ := called_call called
      rcases calls.outcome with ⟨nonempty, succeeded, -⟩ | ⟨failed, -⟩
      · rw [if_pos succeeded, if_pos succeeded]
        by_cases own : setting = about
        · have stored : action.text setting = some text := (texts setting).trans (if_pos own)
          rw [stored]
          exact value_text stored (readable_text readsBack stored nonempty)
        · have other : action.text setting = none := (texts setting).trans (if_neg own)
          rw [other, sets_eq_none other]
          rfl
      · simp [failed]

end Stored

/-! ### What the HAL has -/

section Held

variable {σ : Type} {hal : ActivationHal σ} {build : AudioBuild} {held : σ → HalAudioSettings}
  {unset : HalAudioSettings} (stores : hal.Stores held unset) {setting : AssociatedSetting}
  (resolved : hal.resolvesConfig setting.symbol = true)

/-- Until the first object is constructed, nothing moves but other properties. -/
structure Waiting (setting : AssociatedSetting) (start state : AssociatedProcess σ) : Prop where
  absent : state.isConstructed = false
  statics : state.audio.statics = fun _ => false
  hal : state.audio.volume.plugin.hal = start.audio.volume.plugin.hal
  durable : state.audio.storeBehind.Durable
  stored : state.audio.storeBehind.find? setting.key = start.audio.storeBehind.find? setting.key

include stores in
theorem waiting_run {start state : AssociatedProcess σ} {trace : List (AssociatedStep σ)}
    (run : (associatedAudio hal build).Run start trace state)
    (initially : Waiting setting start start)
    (meets : ∀ step ∈ trace, step.action ≠ .construct ∧ ReadsBack step) :
    Waiting setting start state := by
  refine run.invariant_of_steps meets initially ?_
  rintro before action after effects waiting taken ⟨other, readsBack⟩
  have register := (@settingRegister σ hal build held unset stores setting).step taken readsBack
    waiting.durable
  cases associatedMove_of_step taken with
  | construct absent => exact absurd rfl other
  | destroy there => simp [waiting.absent] at there
  | call there called => simp [waiting.absent] at there
  | @otherProperty key value different =>
      refine ⟨waiting.absent, waiting.statics, ?_, register.1, register.2.trans waiting.stored⟩
      exact (Plugin.persistProperty_hal _ key value).trans waiting.hal

include stores resolved in
/-- The first object of a process sets what is stored under the handle 0. -/
theorem held_construct {process : AudioProcess σ} (new : process.statics = fun _ => false)
    (durable : process.storeBehind.Durable) (handle : Int) :
    held (process.construct hal build).volume.plugin.hal setting.ofHal handle =
      if handle = 0 then
        setting.value (((process.storeBehind.find? setting.key).or
          (process.loaded.findDefault? setting.key)).getD setting.fallback)
      else held process.volume.plugin.hal setting.ofHal handle := by
  have activated := activated_construct stores build process.volume.plugin.hal process
  have targets : startupTargets hal build process.volume.plugin.hal process.statics
      process.loaded.store setting.ofHal =
        [(0, setting.value (storedValue process.loaded.store setting.key setting.fallback))] := by
    have known : hal.resolved setting.func = true := by
      cases setting <;> exact resolved
    rw [new]
    cases setting <;> exact if_pos known
  have found : process.loaded.find? setting.key = process.storeBehind.find? setting.key := by
    unfold LoadedStore.find?
    rw [loaded_eq, durable.properties_reload]
  have value := congrFun (congrFun activated.held setting.ofHal) handle
  refine value.trans ?_
  rw [targets, assignAll_cons, assignAll_nil, ← found]
  by_cases here : handle = 0
  · rw [here, Function.update_self, if_pos rfl]
    rfl
  · rw [Function.update_of_ne here, if_neg here]

include stores resolved in
/-- From then on it is what was asked last under each handle. -/
theorem held_calls {start state : AssociatedProcess σ} {calls : List (AssociatedStep σ)}
    (run : (associatedAudio hal build).Run start calls state)
    (there : start.isConstructed = true)
    (up : start.audio.volume.plugin.audio.isInitialized = true)
    (stays : ∀ step ∈ calls, step.action ≠ .destroy) (handle : Int) :
    state.isConstructed = true ∧ state.audio.volume.plugin.audio.isInitialized = true ∧
      held state.audio.volume.plugin.hal setting.ofHal handle =
        (lastOf (fun step => step.action.setsUnder setting handle) calls).getD
          (held start.audio.volume.plugin.hal setting.ofHal handle) := by
  induction run with
  | nil => exact ⟨there, up, rfl⟩
  | snoc _ taken ih =>
      obtain ⟨there, up, value⟩ := ih fun step member => stays step (List.mem_append_left _ member)
      rw [lastOf_snoc]
      cases associatedMove_of_step taken with
      | construct absent => simp [there] at absent
      | destroy _ => exact absurd rfl (stays _ (List.mem_append_right _ List.mem_cons_self))
      | @otherProperty key text other =>
          have silent : (AssociatedAction.otherProperty key text).setsUnder setting handle =
              none := by cases setting <;> rfl
          rw [silent, Option.none_or]
          refine ⟨there, ?_, ?_⟩
          · rw [persistProperty_snd]
            exact up
          · exact (congrArg (fun hal => held hal setting.ofHal handle)
              (Plugin.persistProperty_hal _ key text)).trans value
      | call _ called =>
          obtain ⟨about, text, texts, calls⟩ := called_call called
          refine ⟨there, (congrArg AudioImpl.isInitialized calls.audio).trans up, ?_⟩
          refine (held_call stores up called resolved handle).trans ?_
          rw [value]
          dsimp only
          cases AssociatedAction.setsUnder setting handle _ <;> rfl

variable {first store : LoadedStore} {start process : AssociatedProcess σ}
  {earlier prior calls : List (AssociatedStep σ)} {opened : AssociatedStep σ}

include stores resolved in
/-- Languages, balance and mixing come back in the next process as they were accepted last, under
the handle 0 and no other; then each handle has what is asked for it. -/
theorem associated_restored (durable : first.Durable)
    (lives : (associatedProcess hal build).Lives first earlier store)
    (starts : (associatedProcess hal build).Starts store.reopened start)
    (run : (associatedAudio hal build).Run start (prior ++ opened :: calls) process)
    (constructs : opened.action = .construct) (waits : ∀ step ∈ prior, step.action ≠ .construct)
    (stays : ∀ step ∈ calls, step.action ≠ .destroy)
    (readsBack : ∀ step ∈ earlier ++ prior, ReadsBack step) (handle : Int) :
    held process.audio.volume.plugin.hal setting.ofHal handle =
      (lastOf (fun step => step.action.setsUnder setting handle) calls).getD
        (if handle = 0 then
          (lastOf (accepted setting) earlier).getD (setting.value (((first.find? setting.key).or
            (opened.before.audio.loaded.findDefault? setting.key)).getD setting.fallback))
        else held start.audio.volume.plugin.hal setting.ofHal handle) := by
  have known : ∀ step ∈ earlier, ReadsBack step := fun step member =>
    readsBack step (List.mem_append_left _ member)
  obtain ⟨kept, found⟩ :=
    (@settingRegister σ hal build held unset stores setting).found_lives durable lives known
  obtain ⟨opens, statics, absent⟩ := starts
  have initially : Waiting setting start start :=
    ⟨absent, statics, rfl, opens ▸ kept.reopened, rfl⟩
  obtain ⟨priorRun, taken⟩ := run.at_occurrence
  have waiting := waiting_run stores priorRun initially fun step member =>
    ⟨waits step member, readsBack step (List.mem_append_right _ member)⟩
  obtain ⟨before, action, effects, after⟩ := opened
  dsimp only at constructs taken waiting ⊢
  subst constructs
  cases associatedMove_of_step taken with
  | call there called => cases called
  | construct absent =>
      have activated := activated_construct stores build before.audio.volume.plugin.hal before.audio
      have restored :=
        @held_construct σ hal build held unset stores setting resolved before.audio waiting.statics
          waiting.durable handle
      obtain ⟨-, -, value⟩ := held_calls stores resolved run.behind_occurrence rfl activated.up
        stays handle
      have stored : before.audio.storeBehind.find? setting.key =
          (lastOf (storedText? setting) earlier).or (first.find? setting.key) := by
        rw [waiting.stored, opens, kept.find?_reopened]
        refine found.trans ?_
        rw [show lastOf (settingRegister stores setting).written earlier = _ from
          lastOf_map (storedText? setting) some earlier]
        cases lastOf (storedText? setting) earlier <;> rfl
      have calls : lastOf (accepted setting) earlier =
          (lastOf (storedText? setting) earlier).map setting.value := by
        rw [← lastOf_map]
        exact lastOf_congr fun step member =>
          accepted_eq (lives.step_of_mem member) (known step member) setting
      rw [value, restored, stored, waiting.hal, calls]
      cases lastOf (storedText? setting) earlier <;> rfl

end Held

namespace RememberedSettings

/-- A new process on a store. -/
def onStore (store : LoadedStore) : AssociatedProcess HalAudioSettings where
  audio :=
    { process with volume.plugin.store := store.store, volume.plugin.files := store.files }
  isConstructed := false

theorem starts_onStore (store : LoadedStore) :
    (associatedProcess hal ⟨false, false⟩).Starts store (onStore store) :=
  ⟨store.ofStore_store, rfl, rfl⟩

def constructed (before : AssociatedProcess HalAudioSettings) : AssociatedStep HalAudioSettings :=
  ⟨before, .construct, [], ⟨before.audio.construct hal ⟨false, false⟩, true⟩⟩

/-- French is asked for on the speaker. -/
def spoken (before : AssociatedProcess HalAudioSettings) : AssociatedStep HalAudioSettings :=
  let called := before.audio.setAudioPrimaryLanguage hal 3 "fra"
  ⟨before, .setAudioPrimaryLanguage 3 "fra", called.2, { before with audio := called.1 }⟩

def store : LoadedStore := .ofStore (.ofStoreFile "/opt/persistent/ds/hostData") fun _ => .absent

/-- The next process has it under the handle 0, and not on the speaker. -/
theorem associated_restored_french :
    let opened := constructed (onStore store.reopened)
    let french := spoken opened.after
    let left := french.after.audio.storeBehind
    let restarted := constructed (onStore left.reopened)
    lastOf (accepted .primaryLanguage) [opened, french] = some "fra" ∧
      ∀ handle,
        restarted.after.audio.volume.plugin.hal AssociatedSetting.primaryLanguage.ofHal handle =
          (lastOf (fun step : AssociatedStep HalAudioSettings =>
            step.action.setsUnder .primaryLanguage handle) []).getD
            (if handle = 0 then
              (lastOf (accepted .primaryLanguage) [opened, french]).getD
                (AssociatedSetting.primaryLanguage.value
                  (((store.find? "audio.PrimaryLanguage").or
                    (restarted.before.audio.loaded.findDefault? "audio.PrimaryLanguage")).getD
                      "eng"))
            else unset .primaryLanguage handle) := by
  intro opened french left restarted
  have first : (associatedAudio hal ⟨false, false⟩).Run (onStore store.reopened)
      [opened, french] french.after := .snoc (.snoc .nil rfl) rfl
  have lives : (associatedProcess hal ⟨false, false⟩).Lives store [opened, french] left :=
    .snoc .nil (starts_onStore _) first
  have second : (associatedAudio hal ⟨false, false⟩).Run (onStore left.reopened)
      ([] ++ restarted :: []) restarted.after := .snoc .nil rfl
  refine ⟨by decide +kernel, fun handle => ?_⟩
  refine associated_restored stores rfl (LoadedStore.durable_of_no_file rfl) lives
    (starts_onStore _) second rfl (by simp) (by simp) ?_ handle
  have profile : (onStore store.reopened).audio.loaded.findDefault? "audio.MS12Profile" = none := by
    decide +kernel
  rw [List.append_nil, List.forall_mem_cons, List.forall_mem_singleton]
  exact ⟨fun value found => absurd (profile.symm.trans found) (by simp), fun _ => by decide⟩

end RememberedSettings

end DeviceSettings.Audio
