import DeviceSettings.Audio.ActivationSettings

/-!
# Activating the audio component again

A second object in a process finds the statics of the first one set, so the sections under them
are skipped, while the HAL has forgotten its settings. The property file is read once more, as
the first activation has left it.
-/

namespace DeviceSettings.Audio

open DeviceSettings.Std
open DeviceSettings.Persistence

section Sections

variable {σ : Type} {hal : ActivationHal σ} {held : σ → HalAudioSettings}
  {unset : HalAudioSettings} (stores : hal.Stores held unset)

/-- A stretch of the startup code that ends with this store. -/
structure Arrives (held : σ → HalAudioSettings) (before after : Plugin σ) (loaded : LoadedStore)
    (change : HalAudioSettings → HalAudioSettings) : Prop where
  initialized : after.audio.isInitialized = before.audio.isInitialized
  store : after.store = loaded.store
  files : after.files = loaded.files
  held : held after.hal = change (held before.hal)

theorem Arrives.then {first second third : Plugin σ} {loaded : LoadedStore}
    {change other : HalAudioSettings → HalAudioSettings}
    (arrives : Arrives held first second loaded change)
    (configures : Configures held second third other) :
    Arrives held first third loaded (other ∘ change) where
  initialized := configures.initialized.trans arrives.initialized
  store := configures.store.trans arrives.store
  files := configures.files.trans arrives.files
  held := configures.held.trans (congrArg other arrives.held)

/-! ### Loudness equivalence -/

def AudioBuild.leDefault (build : AudioBuild) : String :=
  if build.leDefaultDisabled then "FALSE" else "TRUE"

/-- The LE state that is set from a store. -/
def leValue (build : AudioBuild) (store : HostPersistence) : Bool :=
  (store.properties.find? "audio.LEEnable").getD build.leDefault = "TRUE"

def leTargets (hal : ActivationHal σ) (build : AudioBuild) (state : σ)
    (store : HostPersistence) : List (Int × Bool) :=
  if hal.resolvesConfig .dsEnableLEConfig then
    portTargets hal.toAudioHal state [.hdmi] fun _ => leValue build store
  else []

/-- The section persists its default where the property is asked for and is not there. -/
def storeBehindLE (hal : ActivationHal σ) (build : AudioBuild) (state : σ)
    (loaded : LoadedStore) : LoadedStore :=
  if leTargets hal build state loaded.store ≠ [] ∧ loaded.find? "audio.LEEnable" = none then
    loaded.persist "audio.LEEnable" build.leDefault
  else loaded

theorem persistProperty_snd (plugin : Plugin σ) (key value : String) :
    (plugin.persistProperty key value).2 =
      { plugin with
        store := (plugin.store.persistHostProperty plugin.files key value).2.1
        files := (plugin.store.persistHostProperty plugin.files key value).2.2 } := by
  unfold Plugin.persistProperty
  rcases plugin.store.persistHostProperty plugin.files key value with ⟨_ | _, store, files⟩ <;>
    rfl

theorem readLEEnable_eq (build : AudioBuild) (plugin : Plugin σ)
    (ready : plugin.store.isInitialized = true) :
    let loaded : LoadedStore := ⟨plugin.store, plugin.files, ready⟩
    let written := if loaded.find? "audio.LEEnable" = none then
      loaded.persist "audio.LEEnable" build.leDefault else loaded
    plugin.readLEEnable build.leDefaultDisabled =
      ((plugin.store.properties.find? "audio.LEEnable").getD build.leDefault,
        { plugin with store := written.store, files := written.files }) := by
  intro loaded written
  have read : (plugin.store.getProperty plugin.files "audio.LEEnable").1 = _ :=
    loaded.getProperty_eq (by decide)
  have found : loaded.find? "audio.LEEnable" =
    plugin.store.properties.find? "audio.LEEnable" := rfl
  unfold Plugin.readLEEnable
  rw [getProperty_of_ready ready, read]
  cases stored : loaded.find? "audio.LEEnable" with
  | some value =>
      rw [← found, stored]
      simp [written, stored, loaded]
  | none =>
      rw [← found, stored]
      dsimp only
      rw [persistProperty_snd]
      simp only [written, stored, if_true]
      rfl

include stores in
theorem arrives_initializeLE (build : AudioBuild) (start : σ) {process : AudioProcess σ}
    (ready : process.volume.plugin.store.isInitialized = true) :
    let loaded : LoadedStore := ⟨process.volume.plugin.store, process.volume.plugin.files, ready⟩
    let after := process.initializeLE hal build
    Arrives held process.volume.plugin after.volume.plugin (storeBehindLE hal build start loaded)
        (fun settings => settings.assign .leEnabled (leTargets hal build start loaded.store)) ∧
      after.statics = process.statics := by
  intro loaded after
  have nothing : leTargets hal build start loaded.store = [] → after = process →
      Arrives held process.volume.plugin after.volume.plugin
          (storeBehindLE hal build start loaded)
          (fun settings => settings.assign .leEnabled (leTargets hal build start loaded.store)) ∧
        after.statics = process.statics := by
    intro none same
    rw [same, none, storeBehindLE, if_neg (by simp [none])]
    exact ⟨⟨rfl, rfl, rfl, (HalAudioSettings.assign_nil _ .leEnabled).symm⟩, rfl⟩
  have targets : leTargets hal build start loaded.store =
      if hal.resolvesConfig .dsEnableLEConfig then
        ((hal.dsGetAudioPort process.volume.plugin.hal .hdmi 0).toOption.map fun handle =>
          (handle, leValue build loaded.store)).toList
      else [] := by
    rw [leTargets, portTargets_cons, stores.ports.fixed start process.volume.plugin.hal]
    cases hal.dsGetAudioPort process.volume.plugin.hal .hdmi 0 <;> rfl
  cases port : hal.dsGetAudioPort process.volume.plugin.hal .hdmi 0 with
  | error error =>
      refine nothing (by simp [targets, port, Except.toOption]) ?_
      simp only [after, AudioProcess.initializeLE, port]
  | ok handle =>
      cases resolved : hal.resolvesConfig .dsEnableLEConfig with
      | false =>
          refine nothing (by simp [targets, resolved]) ?_
          simp only [after, AudioProcess.initializeLE, port, resolved]
          rfl
      | true =>
          have read := readLEEnable_eq build process.volume.plugin ready
          simp only [port, resolved, if_true, Except.toOption, Option.map_some,
            Option.toList_some] at targets
          simp only [after, AudioProcess.initializeLE, port, resolved, if_true, read]
          rw [storeBehindLE, targets]
          simp only [ne_eq, List.cons_ne_nil, not_false_eq_true, true_and]
          refine ⟨⟨rfl, rfl, rfl, ?_⟩, trivial⟩
          rw [HalAudioSettings.assign_cons _ .leEnabled, HalAudioSettings.assign_nil _ .leEnabled]
          exact (stores.setsLEConfig process.volume.plugin.hal handle _).2

/-! ### Sections under a static -/

/-- The targets of a section whose function may be known already. -/
def onceTargets {α : Type} (hal : ActivationHal σ) (statics : StaticFunc → Bool)
    (func : StaticFunc) (targets : List α) : List α :=
  if statics func then [] else if hal.resolved func then targets else []

theorem configures_initializeOnce (hal : ActivationHal σ) (func : StaticFunc)
    {body : VolumePlugin σ → VolumePlugin σ} {setting : AudioSetting}
    {targets : List (Int × setting.Value)} {process : AudioProcess σ}
    (configures : Configures held process.volume.plugin (body process.volume).plugin
      fun settings => settings.assign setting targets) :
    let after := process.initializeOnce hal func body
    Configures held process.volume.plugin after.volume.plugin (fun settings =>
        settings.assign setting (onceTargets hal process.statics func targets)) ∧
      after.statics =
        Function.update process.statics func (process.statics func || hal.resolved func) := by
  dsimp only
  unfold AudioProcess.initializeOnce onceTargets
  split_ifs with known resolved
  · refine ⟨(Configures.refl _).congr fun settings => by simp, ?_⟩
    simp [known]
  · exact ⟨configures, by simp [resolved]⟩
  · refine ⟨(Configures.refl _).congr fun settings => by simp, ?_⟩
    simp [known, resolved]

/-! ### The MS12 profile -/

/-- Section 9 persists the profile that it sets on the speaker. -/
def storeBehindProfile (hal : ActivationHal σ) (state : σ) (statics : StaticFunc → Bool)
    (loaded : LoadedStore) : LoadedStore :=
  if loaded.findDefault? "audio.MS12Profile.supported" = some "TRUE" ∧
      onceTargets hal statics .dsSetMS12AudioProfileFunc
        (halPorts hal.toAudioHal state [.speaker]) ≠ [] then
    loaded.persist "audio.MS12Profile" (storedValue loaded.store "audio.MS12Profile" "Off")
  else loaded

theorem storeBehindProfile_congr (state : σ) {statics others : StaticFunc → Bool}
    (same : statics .dsSetMS12AudioProfileFunc = others .dsSetMS12AudioProfileFunc)
    {store : HostPersistence} {files : Files String} {ready : store.isInitialized = true}
    {loaded : LoadedStore} (sameStore : store = loaded.store) (sameFiles : files = loaded.files) :
    storeBehindProfile hal state statics ⟨store, files, ready⟩ =
      storeBehindProfile hal state others loaded := by
  subst sameStore sameFiles
  unfold storeBehindProfile onceTargets
  rw [same]

include stores in
theorem tellProfile_snd (plugin : Plugin σ) (handle : Int) (name : String) :
    let persisted := plugin.store.persistHostProperty plugin.files "audio.MS12Profile" name
    (plugin.tellProfile hal.toMs12ProfileHal handle name).2 =
      { plugin with
        hal := (hal.dsSetMS12AudioProfile plugin.hal handle name).2
        store := persisted.2.1
        files := persisted.2.2 } := by
  intro persisted
  have succeeds := (stores.profile plugin.hal handle name).1
  unfold Plugin.tellProfile
  dsimp only [ActivationHal.toMs12ProfileHal]
  cases set : hal.dsSetMS12AudioProfile plugin.hal handle name with
  | mk answer state =>
      rw [set] at succeeds
      dsimp only at succeeds
      subst succeeds
      have persisted := persistProperty_snd { plugin with hal := state } "audio.MS12Profile" name
      dsimp only
      rw [← persisted]
      rcases Plugin.persistProperty { plugin with hal := state } "audio.MS12Profile" name with
        ⟨_ | _, after⟩ <;> rfl

include stores in
theorem arrives_initializeProfile (start : σ) {process : AudioProcess σ}
    (ready : process.volume.plugin.store.isInitialized = true)
    (supported : process.volume.plugin.store.defaultProperties.find?
      "audio.MS12Profile.supported" = some "TRUE") :
    let loaded : LoadedStore := ⟨process.volume.plugin.store, process.volume.plugin.files, ready⟩
    let after := (process.initializeProfile hal).2
    Arrives held process.volume.plugin after.volume.plugin
        (storeBehindProfile hal start process.statics loaded) id ∧
      ∀ func, func ≠ .dsSetMS12AudioProfileFunc → after.statics func = process.statics func := by
  intro loaded after
  have default : loaded.findDefault? "audio.MS12Profile.supported" = some "TRUE" := supported
  have speaker : halPorts hal.toAudioHal start [.speaker] =
      ((hal.dsGetAudioPort process.volume.plugin.hal .speaker 0).toOption.map fun handle =>
        (DsAudioPortType.speaker, handle)).toList := by
    unfold halPorts
    rw [stores.ports.fixed start process.volume.plugin.hal, List.filterMap_cons]
    cases hal.dsGetAudioPort process.volume.plugin.hal .speaker 0 <;> rfl
  have read := Plugin.readProperty_of_ready ready (show "audio.MS12Profile" ≠ "" by decide) "Off"
  have others : ∀ func, func ≠ StaticFunc.dsSetMS12AudioProfileFunc →
      Function.update process.statics .dsSetMS12AudioProfileFunc true func =
        process.statics func := fun func other => Function.update_of_ne other _ _
  simp only [storeBehindProfile, onceTargets, default, true_and, speaker, after,
    AudioProcess.initializeProfile, read]
  cases process.statics .dsSetMS12AudioProfileFunc with
  | true => exact ⟨⟨rfl, rfl, rfl, rfl⟩, fun _ _ => rfl⟩
  | false =>
      cases hal.resolved .dsSetMS12AudioProfileFunc with
      | false => exact ⟨⟨rfl, rfl, rfl, rfl⟩, fun _ _ => rfl⟩
      | true =>
          cases hal.dsGetAudioPort process.volume.plugin.hal .speaker 0 with
          | error error => exact ⟨⟨rfl, rfl, rfl, rfl⟩, others⟩
          | ok handle =>
              have told := tellProfile_snd stores process.volume.plugin handle
                (storedValue process.volume.plugin.store "audio.MS12Profile" "Off")
              simp only [Bool.false_eq_true, if_false, if_true, Except.toOption, Option.map_some,
                Option.toList_some, ne_eq, List.cons_ne_nil, not_false_eq_true]
              refine ⟨⟨?_, ?_, ?_, ?_⟩, others⟩
              · exact congrArg (fun plugin => plugin.audio.isInitialized) told
              · exact congrArg Plugin.store told
              · exact congrArg Plugin.files told
              · refine (congrArg (fun plugin => held plugin.hal) told).trans ?_
                exact (stores.profile process.volume.plugin.hal handle _).2

include stores in
theorem arrives_initializeSupportedProfile (start : σ) {process : AudioProcess σ}
    (ready : process.volume.plugin.store.isInitialized = true)
    (supported : process.volume.plugin.store.defaultProperties.find?
      "audio.MS12Profile.supported" = some "TRUE") :
    let loaded : LoadedStore := ⟨process.volume.plugin.store, process.volume.plugin.files, ready⟩
    let after := process.initializeSupportedProfile hal
    Arrives held process.volume.plugin after.volume.plugin
        (storeBehindProfile hal start process.statics loaded) id ∧
      ∀ func, func ≠ .dsSetMS12AudioProfileFunc → after.statics func = process.statics func := by
  intro loaded after
  obtain ⟨arrives, statics⟩ := arrives_initializeProfile stores start ready supported
  simp only [after, AudioProcess.initializeSupportedProfile]
  cases (process.initializeProfile hal).1 with
  | none => exact ⟨arrives, statics⟩
  | some ms12Profile =>
      dsimp only
      split_ifs
      · have loadedReady : (process.initializeProfile hal).2.volume.plugin.store.isInitialized =
            true := by
          rw [arrives.store]
          exact (storeBehindProfile hal start process.statics loaded).ready
        have overrides := alwaysQuiet_initializeMS12ProfileOverrides stores.keepsMs12
          (process.initializeProfile hal).2.volume.plugin loadedReady
        refine ⟨?_, statics⟩
        dsimp only
        exact arrives.then overrides
      · exact ⟨arrives, statics⟩

include stores in
theorem arrives_initializeMs12 (start : σ) {process : AudioProcess σ}
    (ready : process.volume.plugin.store.isInitialized = true) :
    let loaded : LoadedStore := ⟨process.volume.plugin.store, process.volume.plugin.files, ready⟩
    let after := process.initializeMs12 hal
    Arrives held process.volume.plugin after.volume.plugin
        (storeBehindProfile hal start process.statics loaded) id ∧
      ∀ func, func ≠ .dsSetMS12AudioProfileFunc → after.statics func = process.statics func := by
  intro loaded after
  have read : (process.volume.plugin.store.getDefaultProperty process.volume.plugin.files
      "audio.MS12Profile.supported").1 = _ :=
    loaded.getDefaultProperty_eq (by decide)
  have unsupported : loaded.findDefault? "audio.MS12Profile.supported" ≠ some "TRUE" →
      storeBehindProfile hal start process.statics loaded = loaded :=
    fun other => if_neg fun both => other both.1
  have quiet :=
    alwaysQuiet_initializeIndividualMS12Settings stores.keepsMs12 process.volume.plugin ready
  have individual : Arrives held process.volume.plugin
      (process.volume.plugin.initializeIndividualMS12Settings
        hal.toMs12ProfileHal.toMs12Hal) loaded id :=
    ⟨quiet.initialized, quiet.store, quiet.files, quiet.held⟩
  simp only [after, AudioProcess.initializeMs12]
  rw [getDefaultProperty_of_ready ready, read]
  cases supported : loaded.findDefault? "audio.MS12Profile.supported" with
  | none =>
      rw [unsupported (by simp [supported])]
      exact ⟨individual, fun _ _ => rfl⟩
  | some value =>
      dsimp only
      split_ifs with active off
      · subst active
        exact arrives_initializeSupportedProfile stores start ready supported
      · rw [unsupported (by simpa [supported] using active)]
        exact ⟨individual, fun _ _ => rfl⟩
      · rw [unsupported (by simpa [supported] using active)]
        exact ⟨⟨rfl, rfl, rfl, rfl⟩, fun _ _ => rfl⟩

/-! ### `audioConfigInit` -/

/-- The startup code has come from `process` to `current`, past the sections of these statics. -/
structure Stage (hal : ActivationHal σ) (held : σ → HalAudioSettings)
    (process current : AudioProcess σ) (loaded : LoadedStore) (past : List StaticFunc)
    (change : HalAudioSettings → HalAudioSettings) : Prop where
  arrives : Arrives held process.volume.plugin current.volume.plugin loaded change
  statics : ∀ func, current.statics func =
    if func ∈ past then process.statics func || hal.resolved func else process.statics func

theorem Stage.ready {process current : AudioProcess σ} {loaded : LoadedStore}
    {past : List StaticFunc} {change : HalAudioSettings → HalAudioSettings}
    (stage : Stage hal held process current loaded past change) :
    current.volume.plugin.store.isInitialized = true := by
  rw [stage.arrives.store]
  exact loaded.ready

/-- One section further. -/
theorem Stage.once {process current : AudioProcess σ} {loaded : LoadedStore}
    {past : List StaticFunc} {change : HalAudioSettings → HalAudioSettings}
    (stage : Stage hal held process current loaded past change) {func : StaticFunc}
    (new : func ∉ past) (setting : AudioSetting) {body : VolumePlugin σ → VolumePlugin σ}
    {targets : List (Int × setting.Value)}
    (configures : Configures held current.volume.plugin (body current.volume).plugin
      fun settings => settings.assign setting targets) :
    Stage hal held process (current.initializeOnce hal func body) loaded (func :: past)
      fun settings =>
        (change settings).assign setting (onceTargets hal process.statics func targets) := by
  obtain ⟨once, statics⟩ := configures_initializeOnce hal func configures
  have known : current.statics func = process.statics func := by
    rw [stage.statics, if_neg new]
  have same : onceTargets hal current.statics func targets =
      onceTargets hal process.statics func targets := by
    rw [onceTargets, onceTargets, known]
  rw [same] at once
  refine ⟨stage.arrives.then once, fun other => ?_⟩
  rw [statics, known]
  by_cases own : other = func
  · subst own
    rw [Function.update_self, if_pos List.mem_cons_self]
  · rw [Function.update_of_ne own, stage.statics other]
    simp [own]

/-- The sections of `audioConfigInit` under statics that set an audio setting. -/
def guardedFuncs : List StaticFunc :=
  [.dsSetAssociatedAudioMixingFunc, .dsSetFaderControlFunc, .dsSetSecondaryLanguageFunc,
    .dsSetPrimaryLanguageFunc, .dsSetAudioDelayFunc, .dsSetAudioLevelFunc]

/-- The targets of `audioConfigInit` for each setting. -/
def configTargets (hal : ActivationHal σ) (state : σ) (statics : StaticFunc → Bool)
    (store : HostPersistence) : (setting : AudioSetting) → List (Int × setting.Value)
  | .stereoMode | .stereoAuto | .leEnabled => []
  | .gain =>
    if hal.resolves .dsSetAudioGain then
      portTargets hal.toAudioHal state gainPorts fun portType =>
        atof (storedText store audioGainKey "0" portType)
    else []
  | .level =>
    onceTargets hal statics .dsSetAudioLevelFunc
      (portTargets hal.toAudioHal state levelPorts fun portType =>
        atof (storedText store audioLevelKey "40" portType))
  | .delay =>
    onceTargets hal statics .dsSetAudioDelayFunc
      (portTargets hal.toAudioHal state delayPorts fun portType =>
        delayValue (storedText store audioDelayKey "0" portType))
  | .primaryLanguage =>
    onceTargets hal statics .dsSetPrimaryLanguageFunc
      [(0, storedValue store "audio.PrimaryLanguage" "eng")]
  | .secondaryLanguage =>
    onceTargets hal statics .dsSetSecondaryLanguageFunc
      [(0, storedValue store "audio.SecondaryLanguage" "eng")]
  | .faderControl =>
    onceTargets hal statics .dsSetFaderControlFunc
      [(0, atoi (storedValue store "audio.FaderControl" "0"))]
  | .associatedAudioMixing =>
    onceTargets hal statics .dsSetAssociatedAudioMixingFunc
      [(0, storedValue store "audio.AssociatedAudioMixing" "Disabled" = "Enabled")]

include stores in
/-- The section on gains is under no static. -/
theorem Stage.gain (start : σ) {process current : AudioProcess σ} {loaded : LoadedStore}
    {past : List StaticFunc} {change : HalAudioSettings → HalAudioSettings}
    (stage : Stage hal held process current loaded past change) :
    Stage hal held process (current.initializeGain hal) loaded past fun settings =>
      (change settings).assign .gain
        (configTargets hal start process.statics loaded.store .gain) := by
  have gains := configures_initializePorts stores (setsPort_gain stores) audioGainKey_ne "0"
    gainPorts start stage.ready
  rw [stage.arrives.store] at gains
  refine ⟨?_, stage.statics⟩
  unfold AudioProcess.initializeGain VolumePlugin.initializePorts configTargets
  dsimp only
  split_ifs
  · exact stage.arrives.then gains
  · have same : change = fun settings => (change settings).assign .gain [] :=
      funext fun settings => (HalAudioSettings.assign_nil _ .gain).symm
    rw [← same]
    exact stage.arrives

include stores in
/-- A section on ports under a static. -/
theorem Stage.ports (start : σ) {process current : AudioProcess σ} {loaded : LoadedStore}
    {past : List StaticFunc} {change : HalAudioSettings → HalAudioSettings}
    (stage : Stage hal held process current loaded past change) {func : StaticFunc}
    (new : func ∉ past) {setting : AudioSetting}
    {apply : DsAudioPortType → Int → String → VolumePlugin σ → VolumePlugin σ}
    {value : String → setting.Value} (sets : SetsPort held setting apply value)
    {key : DsAudioPortType → Option String}
    (named : ∀ portType own, key portType = some own → own ≠ "") (fallback : String)
    (ports : List DsAudioPortType) :
    Stage hal held process
      (current.initializeOnce hal func fun volume =>
        ports.foldl (VolumePlugin.initializePort hal.toPortSettingsHal key fallback apply) volume)
      loaded (func :: past) fun settings =>
        (change settings).assign setting (onceTargets hal process.statics func
          (portTargets hal.toAudioHal start ports fun portType =>
            value (storedText loaded.store key fallback portType))) := by
  have told := configures_initializePorts stores sets named fallback ports start stage.ready
  rw [stage.arrives.store] at told
  exact stage.once new setting told

/-- A section without ports under a static. -/
theorem Stage.config {process current : AudioProcess σ} {loaded : LoadedStore}
    {past : List StaticFunc} {change : HalAudioSettings → HalAudioSettings}
    (stage : Stage hal held process current loaded past change) {func : StaticFunc}
    (new : func ∉ past) {setting : AudioSetting}
    {set : σ → Int → setting.Value → Except DsError Unit × σ}
    (setter : IsSetter held setting set) {key : String} (named : key ≠ "") (fallback : String)
    (value : String → setting.Value) :
    Stage hal held process
      (current.initializeOnce hal func
        (VolumePlugin.initializeConfig key fallback fun state handle text =>
          set state handle (value text)))
      loaded (func :: past) fun settings =>
        (change settings).assign setting (onceTargets hal process.statics func
          [(0, value (storedValue loaded.store key fallback))]) := by
  have text := configures_initializeConfig setter named fallback value stage.ready
  rw [stage.arrives.store] at text
  exact stage.once new setting text

include stores in
theorem arrives_audioConfigInit (build : AudioBuild) (start : σ) {process : AudioProcess σ}
    {loaded : LoadedStore} (sameStore : process.volume.plugin.store = loaded.store)
    (sameFiles : process.volume.plugin.files = loaded.files) :
    let behindLE := storeBehindLE hal build start loaded
    let after := process.audioConfigInit hal build
    Arrives held process.volume.plugin after.volume.plugin
        (storeBehindProfile hal start process.statics behindLE) (fun settings setting =>
          assignAll (configTargets hal start process.statics behindLE.store setting)
            (settings.assign .leEnabled (leTargets hal build start loaded.store) setting)) ∧
      ∀ func ∈ guardedFuncs,
        after.statics func = (process.statics func || hal.resolved func) := by
  obtain ⟨store, files, ready⟩ := loaded
  dsimp only at sameStore sameFiles
  subst sameStore sameFiles
  intro behindLE after
  obtain ⟨le, leStatics⟩ := arrives_initializeLE stores build start ready
  have leStage : Stage hal held process (process.initializeLE hal build) behindLE []
      fun settings => settings.assign .leEnabled
        (leTargets hal build start process.volume.plugin.store) :=
    ⟨le, fun func => by rw [leStatics]; simp⟩
  have gain := leStage.gain stores start
  have level := gain.ports stores start
    (show StaticFunc.dsSetAudioLevelFunc ∉ _ by decide) (setsPort_level stores) audioLevelKey_ne
    "40" levelPorts
  have delay := level.ports stores start
    (show StaticFunc.dsSetAudioDelayFunc ∉ _ by decide) (setsPort_delay stores) audioDelayKey_ne
    "0" delayPorts
  have primary := delay.config (show StaticFunc.dsSetPrimaryLanguageFunc ∉ _ by decide)
    stores.setsPrimaryLanguage (show "audio.PrimaryLanguage" ≠ "" by decide) "eng" fun text => text
  have secondary := primary.config (show StaticFunc.dsSetSecondaryLanguageFunc ∉ _ by decide)
    stores.setsSecondaryLanguage (show "audio.SecondaryLanguage" ≠ "" by decide) "eng"
    fun text => text
  have fader := secondary.config (show StaticFunc.dsSetFaderControlFunc ∉ _ by decide)
    stores.setsFaderControl (show "audio.FaderControl" ≠ "" by decide) "0" atoi
  have mixing := fader.config (show StaticFunc.dsSetAssociatedAudioMixingFunc ∉ _ by decide)
    stores.setsAssociatedAudioMixing (show "audio.AssociatedAudioMixing" ≠ "" by decide)
    "Disabled" fun text => text = "Enabled"
  obtain ⟨ms12, ms12Statics⟩ := arrives_initializeMs12 stores start mixing.ready
  have behind_eq : storeBehindProfile hal start _ ⟨_, _, mixing.ready⟩ =
      storeBehindProfile hal start process.statics behindLE :=
    storeBehindProfile_congr start (mixing.statics .dsSetMS12AudioProfileFunc)
      mixing.arrives.store mixing.arrives.files
  refine ⟨⟨?_, ?_, ?_, ?_⟩, fun func guarded => ?_⟩
  · exact ms12.initialized.trans mixing.arrives.initialized
  · exact ms12.store.trans (congrArg LoadedStore.store behind_eq)
  · exact ms12.files.trans (congrArg LoadedStore.files behind_eq)
  · refine ms12.held.trans (mixing.arrives.held.trans (funext fun setting => ?_))
    cases setting <;> simp [HalAudioSettings.assign, configTargets]
  · have other : func ≠ .dsSetMS12AudioProfileFunc := by
      rintro rfl
      exact absurd guarded (by decide)
    exact (ms12Statics func other).trans ((mixing.statics func).trans (if_pos guarded))

/-! ### The object -/

/-- The store as the first look at a property finds it, behind the `load` of `InitialiseHAL`. -/
def AudioProcess.loaded (process : AudioProcess σ) : LoadedStore :=
  .ofStore (process.volume.plugin.store.load process.volume.plugin.files)
    process.volume.plugin.files

/-- The store behind an activation. -/
def leftBehind (hal : ActivationHal σ) (build : AudioBuild) (state : σ)
    (statics : StaticFunc → Bool) (loaded : LoadedStore) : LoadedStore :=
  storeBehindProfile hal state statics (storeBehindLE hal build state loaded)

/-- The targets of an activation for each setting. -/
def startupTargets (hal : ActivationHal σ) (build : AudioBuild) (state : σ)
    (statics : StaticFunc → Bool) (store : HostPersistence) :
    (setting : AudioSetting) → List (Int × setting.Value)
  | .stereoMode => stereoModeTargets hal build state store
  | .stereoAuto => stereoAutoTargets hal build state store
  | .leEnabled => leTargets hal build state store
  | .gain => configTargets hal state statics store .gain
  | .level => configTargets hal state statics store .level
  | .delay => configTargets hal state statics store .delay
  | .primaryLanguage => configTargets hal state statics store .primaryLanguage
  | .secondaryLanguage => configTargets hal state statics store .secondaryLanguage
  | .faderControl => configTargets hal state statics store .faderControl
  | .associatedAudioMixing => configTargets hal state statics store .associatedAudioMixing

theorem AudioBuild.leDefault_ne (build : AudioBuild) : build.leDefault ≠ "" := by
  unfold leDefault
  split_ifs <;> decide

/-- The LE section leaves every other property as it is. -/
theorem storeBehindLE_find? (build : AudioBuild) (state : σ) (loaded : LoadedStore)
    {key : String} (other : key ≠ "audio.LEEnable") :
    (storeBehindLE hal build state loaded).find? key = loaded.find? key ∧
      (storeBehindLE hal build state loaded).findDefault? key = loaded.findDefault? key := by
  have accepted : "audio.LEEnable" ≠ "" ∧ build.leDefault ≠ "" :=
    ⟨by decide, build.leDefault_ne⟩
  unfold storeBehindLE
  split_ifs
  · rw [loaded.find?_persist accepted, if_neg other.symm, loaded.findDefault?_persist accepted]
    exact ⟨rfl, rfl⟩
  · exact ⟨rfl, rfl⟩

theorem storedValue_congr {store other : HostPersistence} {key : String}
    (same : store.properties.find? key = other.properties.find? key ∧
      store.defaultProperties.find? key = other.defaultProperties.find? key)
    (fallback : String) : storedValue store key fallback = storedValue other key fallback := by
  rw [storedValue, storedValue, same.1, same.2]

theorem storedText_congr {store other : HostPersistence}
    {key : DsAudioPortType → Option String} {portType : DsAudioPortType}
    (same : ∀ own, key portType = some own →
      store.properties.find? own = other.properties.find? own ∧
        store.defaultProperties.find? own = other.defaultProperties.find? own)
    (fallback : String) :
    storedText store key fallback portType = storedText other key fallback portType := by
  unfold storedText
  cases keyed : key portType with
  | none => rfl
  | some own => exact storedValue_congr (same own keyed) fallback

/-- The keys are none of the two properties that an activation persists. -/
def AvoidsPersisted (key : DsAudioPortType → Option String) : Prop :=
  ∀ portType own, key portType = some own → own ≠ "audio.LEEnable" ∧ own ≠ "audio.MS12Profile"

theorem avoidsPersisted_of_all {key : DsAudioPortType → Option String}
    (avoids : ∀ portType,
      (key portType).all (fun own => own != "audio.LEEnable" && own != "audio.MS12Profile")) :
    AvoidsPersisted key := by
  intro portType own keyed
  have other := avoids portType
  rw [keyed, Option.all_some, Bool.and_eq_true, bne_iff_ne, bne_iff_ne] at other
  exact other

theorem avoidsPersisted_audioGainKey : AvoidsPersisted audioGainKey :=
  avoidsPersisted_of_all fun portType => by cases portType <;> decide

theorem avoidsPersisted_audioLevelKey : AvoidsPersisted audioLevelKey :=
  avoidsPersisted_of_all fun portType => by cases portType <;> decide

theorem avoidsPersisted_audioDelayKey : AvoidsPersisted audioDelayKey :=
  avoidsPersisted_of_all fun portType => by cases portType <;> decide

theorem avoidsPersisted_audioModeKey : AvoidsPersisted audioModeKey :=
  avoidsPersisted_of_all fun portType => by cases portType <;> decide

theorem avoidsPersisted_audioModeAutoKey : AvoidsPersisted audioModeAutoKey :=
  avoidsPersisted_of_all fun portType => by cases portType <;> decide

/-- The LE default is none of the other settings. -/
theorem configTargets_behindLE (build : AudioBuild) (state start : σ)
    (statics : StaticFunc → Bool) (loaded : LoadedStore) :
    configTargets hal state statics (storeBehindLE hal build start loaded).store =
      configTargets hal state statics loaded.store := by
  have text : ∀ {key : DsAudioPortType → Option String}, AvoidsPersisted key →
      ∀ fallback portType,
        storedText (storeBehindLE hal build start loaded).store key fallback portType =
          storedText loaded.store key fallback portType := by
    intro key other fallback portType
    exact storedText_congr (fun own keyed =>
      storeBehindLE_find? build start loaded (other portType own keyed).1) fallback
  have value : ∀ {key : String}, key ≠ "audio.LEEnable" → ∀ fallback,
      storedValue (storeBehindLE hal build start loaded).store key fallback =
        storedValue loaded.store key fallback := by
    intro key other fallback
    exact storedValue_congr (storeBehindLE_find? build start loaded other) fallback
  funext setting
  cases setting <;>
    simp only [configTargets, text avoidsPersisted_audioGainKey,
      text avoidsPersisted_audioLevelKey, text avoidsPersisted_audioDelayKey,
      value (show "audio.PrimaryLanguage" ≠ "audio.LEEnable" by decide),
      value (show "audio.SecondaryLanguage" ≠ "audio.LEEnable" by decide),
      value (show "audio.FaderControl" ≠ "audio.LEEnable" by decide),
      value (show "audio.AssociatedAudioMixing" ≠ "audio.LEEnable" by decide)]

/-- The assignments of the startup code, setting by setting. -/
theorem startupTargets_assign (build : AudioBuild) (state : σ) (statics : StaticFunc → Bool)
    (store : HostPersistence) (settings : HalAudioSettings) :
    (fun setting => assignAll (configTargets hal state statics store setting)
        (((settings.assign .stereoMode (stereoModeTargets hal build state store)).assign
          .stereoAuto (stereoAutoTargets hal build state store)).assign
            .leEnabled (leTargets hal build state store) setting)) =
      fun setting => assignAll (startupTargets hal build state statics store setting)
        (settings setting) := by
  funext setting
  cases setting <;> simp [HalAudioSettings.assign, startupTargets, configTargets]

/-- What an activation does to the HAL, the property store and the statics. -/
structure Activated (hal : ActivationHal σ) (build : AudioBuild) (held : σ → HalAudioSettings)
    (start : σ) (process after : AudioProcess σ) : Prop where
  up : after.volume.plugin.audio.isInitialized = true
  store : after.volume.plugin.store =
    (leftBehind hal build start process.statics process.loaded).store
  files : after.volume.plugin.files =
    (leftBehind hal build start process.statics process.loaded).files
  held : held after.volume.plugin.hal = fun setting =>
    assignAll (startupTargets hal build start process.statics process.loaded.store setting)
      (held process.volume.plugin.hal setting)
  statics : ∀ func ∈ guardedFuncs,
    after.statics func = (process.statics func || hal.resolved func)

include stores in
theorem activated_construct (build : AudioBuild) (start : σ) (process : AudioProcess σ) :
    Activated hal build held start process (process.construct hal build) := by
  obtain ⟨succeeds, kept⟩ := stores.inits process.volume.plugin.hal
  unfold AudioProcess.construct AudioProcess.initialiseHAL
  dsimp only
  rw [if_neg Bool.false_ne_true]
  cases opened : hal.dsAudioPortInit process.volume.plugin.hal with
  | mk answer state =>
      rw [opened] at succeeds kept
      dsimp only at succeeds kept
      subst succeeds
      set opened : AudioProcess σ :=
        { process with
          volume.plugin :=
            { hal := state
              audio :=
                { process.volume.plugin.audio with
                  isInitialized := true
                  isDuckingInProgress := false
                  volumeDuckingLevel := 0
                  audioPortEnabled := fun _ => false }
              store := process.volume.plugin.store.load process.volume.plugin.files
              files := process.volume.plugin.files }
          volume.muteStatus := false
          volume.persistThreadAlive := true }
      obtain ⟨audio, audioStatics⟩ :=
        configures_initializeAudioSettings stores build opened start
      have sameStore : (opened.initializeAudioSettings hal build).volume.plugin.store =
          process.loaded.store := audio.store
      have sameFiles : (opened.initializeAudioSettings hal build).volume.plugin.files =
          process.loaded.files := audio.files
      obtain ⟨config, statics⟩ :=
        arrives_audioConfigInit stores build start sameStore sameFiles
      rw [audioStatics] at config statics
      refine ⟨config.initialized.trans audio.initialized, config.store, config.files, ?_, statics⟩
      refine config.held.trans ?_
      rw [configTargets_behindLE, audio.held]
      have initially : held opened.volume.plugin.hal = held process.volume.plugin.hal := kept
      rw [← initially]
      exact startupTargets_assign build start process.statics process.loaded.store _

include stores in
/-- The destructor leaves the store and the statics. -/
theorem destroy_eq {process : AudioProcess σ}
    (up : process.volume.plugin.audio.isInitialized = true) :
    let after := process.destroy hal
    held after.volume.plugin.hal = unset ∧
      after.volume.plugin.store = process.volume.plugin.store ∧
      after.volume.plugin.files = process.volume.plugin.files ∧
      after.statics = process.statics := by
  intro after
  simp only [after, AudioProcess.destroy, up, if_true]
  exact ⟨(stores.forgets process.volume.plugin.hal).2, trivial, trivial, trivial⟩

/-! ### The second activation -/

/-- The property store as the second activation reads it. -/
def rereadStore (hal : ActivationHal σ) (build : AudioBuild) (state : σ)
    (loaded : LoadedStore) : HostPersistence :=
  (leftBehind hal build state (fun _ => false) loaded).reload.store

/-- A second activation brings the setting back. Under a static, the HAL must have had nothing to
be set: what it has without being set is what the store says. Otherwise the file that the first
activation leaves must read the same. -/
def ComesBack (hal : ActivationHal σ) (build : AudioBuild) (state : σ)
    (unset : HalAudioSettings) (loaded : LoadedStore) : AudioSetting → Prop
  | .stereoMode => ∀ portType handle,
    (portType, handle) ∈ halPorts hal.toAudioHal state stereoPorts →
      stereoModeValue build (rereadStore hal build state loaded) portType =
        stereoModeValue build loaded.store portType
  | .stereoAuto => ∀ portType handle,
    (portType, handle) ∈ halPorts hal.toAudioHal state stereoPorts →
      stereoAutoValue build (rereadStore hal build state loaded) portType =
        stereoAutoValue build loaded.store portType
  | .leEnabled => True
  | .gain => hal.resolves .dsSetAudioGain = true → ∀ portType handle,
    (portType, handle) ∈ halPorts hal.toAudioHal state gainPorts →
      atof (storedText (rereadStore hal build state loaded) audioGainKey "0" portType) =
        atof (storedText loaded.store audioGainKey "0" portType)
  | .level => hal.resolves .dsSetAudioLevel = true → ∀ portType handle,
    (portType, handle) ∈ halPorts hal.toAudioHal state levelPorts →
      unset .level handle = atof (storedText loaded.store audioLevelKey "40" portType)
  | .delay => hal.resolves .dsSetAudioDelay = true → ∀ portType handle,
    (portType, handle) ∈ halPorts hal.toAudioHal state delayPorts →
      unset .delay handle = delayValue (storedText loaded.store audioDelayKey "0" portType)
  | .primaryLanguage => hal.resolvesConfig .dsSetPrimaryLanguage = true →
    unset .primaryLanguage 0 = storedValue loaded.store "audio.PrimaryLanguage" "eng"
  | .secondaryLanguage => hal.resolvesConfig .dsSetSecondaryLanguage = true →
    unset .secondaryLanguage 0 = storedValue loaded.store "audio.SecondaryLanguage" "eng"
  | .faderControl => hal.resolvesConfig .dsSetFaderControl = true →
    unset .faderControl 0 = atoi (storedValue loaded.store "audio.FaderControl" "0")
  | .associatedAudioMixing => hal.resolvesConfig .dsSetAssociatedAudioMixing = true →
    unset .associatedAudioMixing 0 =
      decide (storedValue loaded.store "audio.AssociatedAudioMixing" "Disabled" = "Enabled")

/-! #### A store that reads back -/

section ReadsBack

variable {loaded : LoadedStore} (readsBack : loaded.ReadsBack)

include readsBack in
theorem readable_storedValue (key : String) {fallback : String} (readable : Readable fallback) :
    Readable (storedValue loaded.store key fallback) := by
  unfold storedValue
  cases stored : loaded.store.properties.find? key with
  | some value => exact (readsBack.properties key value stored).2
  | none =>
      cases default : loaded.store.defaultProperties.find? key with
      | some value => exact (readsBack.defaults key value default).2
      | none => exact readable

include readsBack in
theorem readsBack_storeBehindLE (build : AudioBuild) (state : σ) :
    (storeBehindLE hal build state loaded).ReadsBack := by
  have readable : Readable "audio.LEEnable" ∧ Readable build.leDefault := by
    unfold AudioBuild.leDefault
    split_ifs <;> decide
  unfold storeBehindLE
  split_ifs
  · exact readsBack.persist readable
  · exact readsBack

include readsBack in
theorem readsBack_storeBehindProfile (state : σ) (statics : StaticFunc → Bool) :
    (storeBehindProfile hal state statics loaded).ReadsBack := by
  unfold storeBehindProfile
  split_ifs
  · exact readsBack.persist ⟨by decide, readable_storedValue readsBack _ (by decide)⟩
  · exact readsBack

include readsBack in
/-- The second activation reads what the first one has read, its own two properties apart. -/
theorem rereadStore_find? (build : AudioBuild) (state : σ) {key : String}
    (other : key ≠ "audio.LEEnable" ∧ key ≠ "audio.MS12Profile") :
    (rereadStore hal build state loaded).properties.find? key =
        loaded.store.properties.find? key ∧
      (rereadStore hal build state loaded).defaultProperties.find? key =
        loaded.store.defaultProperties.find? key := by
  have behind : (storeBehindLE hal build state loaded).ReadsBack :=
    readsBack_storeBehindLE readsBack build state
  have accepted : "audio.MS12Profile" ≠ "" ∧ storedValue
      (storeBehindLE hal build state loaded).store "audio.MS12Profile" "Off" ≠ "" :=
    ⟨by decide, (readable_storedValue behind _ (by decide)).ne⟩
  have first : (storeBehindLE hal build state loaded).find? key = loaded.find? key ∧
      (storeBehindLE hal build state loaded).findDefault? key = loaded.findDefault? key :=
    storeBehindLE_find? build state loaded other.1
  unfold rereadStore leftBehind
  rw [(readsBack_storeBehindProfile behind state _).settled.reload]
  unfold storeBehindProfile
  split_ifs
  · have kept := LoadedStore.find?_persist_of_ne (storeBehindLE hal build state loaded) other.2.symm
      (storedValue (storeBehindLE hal build state loaded).store "audio.MS12Profile" "Off")
    have default := LoadedStore.findDefault?_persist (storeBehindLE hal build state loaded) accepted
      key
    exact ⟨kept.trans first.1, default.trans first.2⟩
  · exact first

include readsBack in
/-- Then nothing stands in the way of the sections that are under no static. -/
theorem comesBack_of_readsBack (build : AudioBuild) (state : σ) (unset : HalAudioSettings) :
    ComesBack hal build state unset loaded .stereoMode ∧
      ComesBack hal build state unset loaded .stereoAuto ∧
        ComesBack hal build state unset loaded .gain := by
  have text : ∀ {key : DsAudioPortType → Option String}, AvoidsPersisted key →
      ∀ fallback portType,
        storedText (rereadStore hal build state loaded) key fallback portType =
          storedText loaded.store key fallback portType := by
    intro key other fallback portType
    exact storedText_congr (fun own keyed =>
      rereadStore_find? readsBack build state (other portType own keyed)) fallback
  refine ⟨fun portType handle _ => ?_, fun portType handle _ => ?_, fun _ portType handle _ => ?_⟩
  · unfold stereoModeValue storedMode
    dsimp only
    rw [text avoidsPersisted_audioModeKey]
    cases keyed : audioModeKey portType with
    | none => rfl
    | some own =>
        rw [Option.bind_some, Option.bind_some,
          (rereadStore_find? readsBack build state
            (avoidsPersisted_audioModeKey portType own keyed)).1]
  · simp only [stereoAutoValue, text avoidsPersisted_audioModeAutoKey]
  · rw [text avoidsPersisted_audioGainKey]

end ReadsBack

/-- Nothing is set in the process, neither a static nor a setting of the HAL. -/
structure Fresh (held : σ → HalAudioSettings) (unset : HalAudioSettings)
    (process : AudioProcess σ) : Prop where
  statics : process.statics = fun _ => false
  unset : held process.volume.plugin.hal = unset

/-- A section under a static is made up for exactly when it had nothing to set. -/
theorem assignAll_once_iff {setting : AudioSetting} {func : StaticFunc}
    {statics : StaticFunc → Bool} (known : statics func = hal.resolved func)
    (again : List (Int × setting.Value)) {targets : List (Int × setting.Value)}
    (nodup : (targets.map Prod.fst).Nodup) (array : Int → setting.Value) :
    assignAll (onceTargets hal statics func again) array =
        assignAll (onceTargets hal (fun _ => false) func targets) array ↔
      (hal.resolved func = true → ∀ target ∈ targets, array target.1 = target.2) := by
  have skipped : onceTargets hal statics func again = [] := by
    rw [onceTargets, known]
    split_ifs <;> rfl
  rw [skipped, assignAll_nil, eq_comm, onceTargets, if_neg Bool.false_ne_true]
  split_ifs with resolved
  · simp only [resolved, true_imp_iff]
    exact assignAll_eq_self_iff nodup
  · simp [resolved]

theorem assignAll_portTargets_iff {α : Type} (distinct : hal.toAudioHal.DistinctPorts) (state : σ)
    {ports : List DsAudioPortType} (nodup : ports.Nodup) {left right : DsAudioPortType → α}
    (array : Int → α) :
    assignAll (portTargets hal.toAudioHal state ports left) array =
        assignAll (portTargets hal.toAudioHal state ports right) array ↔
      ∀ portType handle, (portType, handle) ∈ halPorts hal.toAudioHal state ports →
        left portType = right portType := by
  unfold portTargets
  rw [assignAll_map_eq_iff (nodup_halPorts distinct state nodup)]
  exact ⟨fun agree portType handle member => agree (portType, handle) member,
    fun agree port member => agree port.1 port.2 member⟩

/-- The sections on ports under a static. -/
theorem assignAll_oncePorts_iff {setting : AudioSetting} {func : StaticFunc}
    {statics : StaticFunc → Bool} (known : statics func = hal.resolved func)
    (distinct : hal.toAudioHal.DistinctPorts) (state : σ) {ports : List DsAudioPortType}
    (nodup : ports.Nodup) (again : List (Int × setting.Value))
    (value : DsAudioPortType → setting.Value) (array : Int → setting.Value) :
    assignAll (onceTargets hal statics func again) array =
        assignAll (onceTargets hal (fun _ => false) func
          (portTargets hal.toAudioHal state ports value)) array ↔
      (hal.resolved func = true → ∀ portType handle,
        (portType, handle) ∈ halPorts hal.toAudioHal state ports →
          array handle = value portType) := by
  have keys : ((portTargets hal.toAudioHal state ports value).map Prod.fst).Nodup := by
    have shape : (portTargets hal.toAudioHal state ports value).map Prod.fst =
        (halPorts hal.toAudioHal state ports).map Prod.snd := by
      rw [portTargets, List.map_map]
      rfl
    rw [shape]
    exact nodup_halPorts distinct state nodup
  rw [assignAll_once_iff known again keys]
  unfold portTargets
  simp only [List.forall_mem_map, Prod.forall]

/-- The sections without ports under a static. -/
theorem assignAll_onceConfig_iff {setting : AudioSetting} {func : StaticFunc}
    {statics : StaticFunc → Bool} (known : statics func = hal.resolved func)
    (again : List (Int × setting.Value)) (value : setting.Value) (array : Int → setting.Value) :
    assignAll (onceTargets hal statics func again) array =
        assignAll (onceTargets hal (fun _ => false) func [(0, value)]) array ↔
      (hal.resolved func = true → array 0 = value) := by
  have keys : ([(0, value)].map Prod.fst : List Int).Nodup := List.nodup_singleton 0
  rw [assignAll_once_iff known again keys]
  simp only [List.forall_mem_singleton]

/-- LE reads the same again: what was there stays, and a default is persisted. -/
theorem leTargets_reread (build : AudioBuild) (state : σ) (loaded : LoadedStore) :
    leTargets hal build state (rereadStore hal build state loaded) =
      leTargets hal build state loaded.store := by
  have shape : ∀ store, leTargets hal build state store =
      (if hal.resolvesConfig .dsEnableLEConfig then halPorts hal.toAudioHal state [.hdmi]
        else []).map fun port => (port.2, leValue build store) := by
    intro store
    unfold leTargets portTargets
    split_ifs <;> rfl
  by_cases asked : leTargets hal build state loaded.store = []
  · have none := List.map_eq_nil_iff.mp ((shape loaded.store).symm.trans asked)
    rw [shape, shape, none]
    rfl
  have behind : ∀ value, (storeBehindLE hal build state loaded).find? "audio.LEEnable" =
      some value → (rereadStore hal build state loaded).properties.find? "audio.LEEnable" =
        some value := by
    intro value found
    refine LoadedStore.find?_reload _ ?_
    unfold leftBehind storeBehindProfile
    split_ifs
    · rwa [LoadedStore.find?_persist_of_ne _ (by decide)]
    · exact found
  have same : leValue build (rereadStore hal build state loaded) = leValue build loaded.store := by
    unfold leValue
    cases stored : loaded.find? "audio.LEEnable" with
    | some value =>
        rw [behind value (by rw [storeBehindLE, if_neg (by simp [stored]), stored]),
          show loaded.store.properties.find? "audio.LEEnable" = some value from stored]
    | none =>
        have persisted : (storeBehindLE hal build state loaded).find? "audio.LEEnable" =
            some build.leDefault := by
          rw [storeBehindLE, if_pos ⟨asked, stored⟩,
            loaded.find?_persist ⟨by decide, build.leDefault_ne⟩, if_pos rfl]
        rw [behind _ persisted,
          show loaded.store.properties.find? "audio.LEEnable" = none from stored]
        rfl
  rw [shape, shape, same]

include stores in
/-- Where the statics are those of an activation, a setting is as a first activation leaves it
exactly when it comes back. -/
theorem comesBack_iff (build : AudioBuild) (state : σ) {statics : StaticFunc → Bool}
    (known : ∀ func ∈ guardedFuncs, statics func = hal.resolved func) (loaded : LoadedStore)
    (setting : AudioSetting) :
    assignAll (startupTargets hal build state statics (rereadStore hal build state loaded)
        setting) (unset setting) =
      assignAll (startupTargets hal build state (fun _ => false) loaded.store setting)
        (unset setting) ↔
      ComesBack hal build state unset loaded setting := by
  cases setting with
  | stereoMode => exact assignAll_portTargets_iff stores.ports state (by decide) _
  | stereoAuto => exact assignAll_portTargets_iff stores.ports state (by decide) _
  | leEnabled =>
      simp only [startupTargets, leTargets_reread, ComesBack]
  | gain =>
      simp only [startupTargets, configTargets, ComesBack]
      split_ifs with resolved
      · simp only [resolved, true_imp_iff]
        exact assignAll_portTargets_iff stores.ports state (by decide) _
      · simp [resolved]
  | level =>
      exact assignAll_oncePorts_iff (known .dsSetAudioLevelFunc (by decide)) stores.ports state
        (by decide) _ _ _
  | delay =>
      exact assignAll_oncePorts_iff (known .dsSetAudioDelayFunc (by decide)) stores.ports state
        (by decide) _ _ _
  | primaryLanguage =>
      exact assignAll_onceConfig_iff (known .dsSetPrimaryLanguageFunc (by decide)) _ _ _
  | secondaryLanguage =>
      exact assignAll_onceConfig_iff (known .dsSetSecondaryLanguageFunc (by decide)) _ _ _
  | faderControl =>
      exact assignAll_onceConfig_iff (known .dsSetFaderControlFunc (by decide)) _ _ _
  | associatedAudioMixing =>
      exact assignAll_onceConfig_iff (known .dsSetAssociatedAudioMixingFunc (by decide)) _ _ _

include stores in
/-- The settings behind a first and a second activation; the statics of the second are set. -/
theorem held_reactivated (build : AudioBuild) {process : AudioProcess σ}
    (fresh : Fresh held unset process) :
    let start := process.volume.plugin.hal
    let active := process.construct hal build
    ∃ statics : StaticFunc → Bool,
      (∀ func ∈ guardedFuncs, statics func = hal.resolved func) ∧
        held ((active.destroy hal).construct hal build).volume.plugin.hal = (fun setting =>
          assignAll (startupTargets hal build start statics
            (rereadStore hal build start process.loaded) setting) (unset setting)) ∧
          held active.volume.plugin.hal = fun setting =>
            assignAll (startupTargets hal build start (fun _ => false) process.loaded.store
              setting) (unset setting) := by
  intro start active
  have first : Activated hal build held start process active :=
    activated_construct stores build start process
  obtain ⟨forgot, store, files, statics⟩ := destroy_eq stores first.up
  have second := activated_construct stores build start (active.destroy hal)
  have known : ∀ func ∈ guardedFuncs, (active.destroy hal).statics func = hal.resolved func := by
    intro func guarded
    rw [statics, first.statics func guarded, fresh.statics, Bool.false_or]
  have reread : (active.destroy hal).loaded.store = rereadStore hal build start process.loaded := by
    unfold AudioProcess.loaded LoadedStore.ofStore
    dsimp only
    rw [store, files, first.store, first.files, fresh.statics]
    exact HostPersistence.ensureInitialized_of_ready
      (leftBehind hal build start (fun _ => false) process.loaded).reload.ready _
  refine ⟨(active.destroy hal).statics, known, ?_, ?_⟩
  · rw [second.held, forgot, reread]
  · rw [first.held, fresh.unset, fresh.statics]

include stores in
/-- Constructing, destroying and constructing again leaves the HAL as one construction does
exactly when every setting comes back. -/
theorem reactivation_iff (build : AudioBuild) {process : AudioProcess σ}
    (fresh : Fresh held unset process) :
    held (((process.construct hal build).destroy hal).construct hal build).volume.plugin.hal =
        held (process.construct hal build).volume.plugin.hal ↔
      ∀ setting, ComesBack hal build process.volume.plugin.hal unset process.loaded setting := by
  obtain ⟨statics, known, second, first⟩ := held_reactivated stores build fresh
  rw [second, first, funext_iff]
  exact forall_congr'
    (comesBack_iff stores build process.volume.plugin.hal known process.loaded)

end Sections

namespace RememberedSettings

/-- The settings when nothing has set them. -/
def unset : HalAudioSettings
  | .stereoMode => fun _ => .stereo
  | .stereoAuto | .faderControl => fun _ => 0
  | .leEnabled | .associatedAudioMixing => fun _ => false
  | .gain | .level => fun _ => 0
  | .delay => fun _ => 0
  | .primaryLanguage | .secondaryLanguage => fun _ => ""

/-- The settings are all that is remembered; every symbol is there. -/
def hal : ActivationHal HalAudioSettings where
  dsGetAudioPort _ type _ :=
    match type with
    | .hdmi => .ok 1
    | .spdif => .ok 2
    | .speaker => .ok 3
    | _ => .error .operationNotSupported
  dsIsAudioPortEnabled _ _ := .ok true
  dsIsAudioMute _ _ := .ok false
  dsEnableAudioPort memory _ _ := (.ok (), memory)
  dsSetAudioLevel memory handle level := (.ok (), memory.set .level handle level)
  dsSetAudioDelay memory handle delay := (.ok (), memory.set .delay handle delay)
  dsGetAudioLevel memory handle := .ok (memory .level handle)
  dsSetAudioMute memory _ _ := (.ok (), memory)
  resolves _ := true
  dsSetAudioGain memory handle gain := (.ok (), memory.set .gain handle gain)
  dsAudioOutIsConnected _ _ := .ok true
  dsGetStereoMode memory handle := .ok (memory .stereoMode handle)
  dsSetStereoMode memory handle mode := (.ok (), memory.set .stereoMode handle mode)
  dsSetStereoAuto memory handle autoMode := (.ok (), memory.set .stereoAuto handle autoMode)
  dsAudioPortInit memory := (.ok (), memory)
  dsAudioPortTerm _ := (.ok (), unset)
  resolvesConfig _ := true
  dsEnableLEConfig memory handle enable := (.ok (), memory.set .leEnabled handle enable)
  dsSetPrimaryLanguage memory handle language :=
    (.ok (), memory.set .primaryLanguage handle language)
  dsSetSecondaryLanguage memory handle language :=
    (.ok (), memory.set .secondaryLanguage handle language)
  dsSetFaderControl memory handle balance := (.ok (), memory.set .faderControl handle balance)
  dsSetAssociatedAudioMixing memory handle mixing :=
    (.ok (), memory.set .associatedAudioMixing handle mixing)
  resolvesMs12 _ := true
  ms12Call memory _ _ := (.ok (), memory)
  dsSetMS12AudioProfile memory _ _ := (.ok (), memory)

theorem stores : hal.Stores id unset where
  ports := {
    fixed _ _ := rfl
    narrow := by
      intro memory type handle port
      cases type <;> cases port <;> decide
    distinct := by
      intro memory type other handle port same
      cases type <;> cases port <;> cases other <;> cases same <;> rfl }
  setsStereoMode _ _ _ := ⟨rfl, rfl⟩
  setsStereoAuto _ _ _ := ⟨rfl, rfl⟩
  setsLEConfig _ _ _ := ⟨rfl, rfl⟩
  setsGain _ _ _ := ⟨rfl, rfl⟩
  setsLevel _ _ _ := ⟨rfl, rfl⟩
  setsDelay _ _ _ := ⟨rfl, rfl⟩
  setsPrimaryLanguage _ _ _ := ⟨rfl, rfl⟩
  setsSecondaryLanguage _ _ _ := ⟨rfl, rfl⟩
  setsFaderControl _ _ _ := ⟨rfl, rfl⟩
  setsAssociatedAudioMixing _ _ _ := ⟨rfl, rfl⟩
  ms12 _ _ _ := ⟨rfl, rfl⟩
  profile _ _ _ := ⟨rfl, rfl⟩
  inits _ := ⟨rfl, rfl⟩
  forgets _ := ⟨rfl, rfl⟩

/-- A process in which nothing has been activated yet. -/
def process : AudioProcess HalAudioSettings where
  volume := {
    plugin := {
      hal := unset
      audio := ⟨false, false, 0, ⟨0, 0, 0, 0⟩, fun _ => false⟩
      store := .ofStoreFile "/opt/persistent/ds/hostData"
      files := fun _ => .absent }
    muteStatus := false
    lastVolumeLevel := 0
    persistThreadAlive := true }
  globals := ⟨.stereo, .stereo, .stereo, .stereo, false, false, false, false⟩
  leEnabled := false
  statics _ := false

theorem fresh : Fresh id unset process := ⟨rfl, rfl⟩

end RememberedSettings

theorem reactivation_iff_remembered :
    id (((RememberedSettings.process.construct RememberedSettings.hal ⟨false, false⟩).destroy
        RememberedSettings.hal).construct RememberedSettings.hal ⟨false, false⟩).volume.plugin.hal =
        id (RememberedSettings.process.construct RememberedSettings.hal
          ⟨false, false⟩).volume.plugin.hal ↔
      ∀ setting, ComesBack RememberedSettings.hal ⟨false, false⟩
        RememberedSettings.process.volume.plugin.hal RememberedSettings.unset
        RememberedSettings.process.loaded setting :=
  reactivation_iff RememberedSettings.stores ⟨false, false⟩ RememberedSettings.fresh

/-- The primary language is only set by the first object. -/
theorem not_reactivation :
    ¬∀ {σ : Type} (hal : ActivationHal σ) (held : σ → HalAudioSettings)
      (unset : HalAudioSettings) (build : AudioBuild) (process : AudioProcess σ),
      hal.Stores held unset → Fresh held unset process →
        held (((process.construct hal build).destroy hal).construct hal build).volume.plugin.hal =
          held (process.construct hal build).volume.plugin.hal := by
  intro restored
  have same := restored RememberedSettings.hal id RememberedSettings.unset ⟨false, false⟩
    RememberedSettings.process RememberedSettings.stores RememberedSettings.fresh
  obtain ⟨statics, known, second, first⟩ :=
    held_reactivated RememberedSettings.stores ⟨false, false⟩ RememberedSettings.fresh
  rw [second, first] at same
  have back := (comesBack_iff RememberedSettings.stores ⟨false, false⟩ _ known
    RememberedSettings.process.loaded .primaryLanguage).mp (congrFun same .primaryLanguage)
  have spoken : "" = "eng" := back rfl
  exact absurd spoken (by decide)

end DeviceSettings.Audio
