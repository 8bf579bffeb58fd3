import DeviceSettings.Audio.Activation
import DeviceSettings.Audio.PortSettingsStartup
import DeviceSettings.Audio.StereoRestart
import DeviceSettings.Persistence.LoadedStore
import DeviceSettings.Std.Assignment

/-!
# What an activation leaves in the HAL

The HAL keeps a value for each setting and handle. A section of the startup code assigns one
setting, so an activation is told by the list of targets that each setting has.
-/

namespace DeviceSettings.Audio

open DeviceSettings.Std
open DeviceSettings.Persistence

/-- The settings that the HAL keeps under a handle. -/
inductive AudioSetting where
  | stereoMode
  | stereoAuto
  | leEnabled
  | gain
  | level
  | delay
  | primaryLanguage
  | secondaryLanguage
  | faderControl
  | associatedAudioMixing
  deriving DecidableEq, Repr

abbrev AudioSetting.Value : AudioSetting → Type
  | .stereoMode => DsAudioStereoMode
  | .stereoAuto | .faderControl => Int
  | .leEnabled | .associatedAudioMixing => Bool
  | .gain | .level => AudioLevel
  | .delay => Nat
  | .primaryLanguage | .secondaryLanguage => String

/-- All settings of the HAL. -/
abbrev HalAudioSettings := (setting : AudioSetting) → Int → setting.Value

namespace HalAudioSettings

def set (settings : HalAudioSettings) (setting : AudioSetting) (handle : Int)
    (value : setting.Value) : HalAudioSettings :=
  Function.update settings setting (Function.update (settings setting) handle value)

def assign (settings : HalAudioSettings) (setting : AudioSetting)
    (targets : List (Int × setting.Value)) : HalAudioSettings :=
  Function.update settings setting (assignAll targets (settings setting))

@[simp] theorem assign_nil (settings : HalAudioSettings) (setting : AudioSetting) :
    settings.assign setting [] = settings :=
  Function.update_eq_self setting settings

@[simp] theorem assign_cons (settings : HalAudioSettings) (setting : AudioSetting)
    (target : Int × setting.Value) (targets : List (Int × setting.Value)) :
    settings.assign setting (target :: targets) =
      (settings.set setting target.1 target.2).assign setting targets := by
  simp only [assign, set, assignAll_cons, Function.update_self, Function.update_idem]

@[simp] theorem assign_self (settings : HalAudioSettings) (setting : AudioSetting)
    (targets : List (Int × setting.Value)) :
    settings.assign setting targets setting = assignAll targets (settings setting) :=
  Function.update_self setting _ settings

/-- A setting that is set between the targets of another one can be set before them. -/
theorem set_assign {setting other : AudioSetting} (different : setting ≠ other)
    (settings : HalAudioSettings) (handle : Int) (value : setting.Value)
    (targets : List (Int × other.Value)) :
    (settings.assign other targets).set setting handle value =
      (settings.set setting handle value).assign other targets := by
  simp only [set, assign, Function.update_of_ne different, Function.update_of_ne different.symm]
  exact Function.update_comm different.symm _ _ settings

end HalAudioSettings

section Contract

variable {σ : Type}

/-- The setter succeeds, and its argument is in the setting under its handle from then on. -/
def IsSetter (held : σ → HalAudioSettings) (setting : AudioSetting)
    (set : σ → Int → setting.Value → Except DsError Unit × σ) : Prop :=
  ∀ state handle value, (set state handle value).1 = .ok () ∧
    held (set state handle value).2 = (held state).set setting handle value

/-- The HAL has fixed ports, its calls succeed, setters store, the MS12 calls are about other
settings, and `dsAudioPortTerm` brings the settings back to what they are when nothing is set. -/
structure ActivationHal.Stores (hal : ActivationHal σ) (held : σ → HalAudioSettings)
    (unset : HalAudioSettings) : Prop where
  ports : hal.DistinctPorts
  setsStereoMode : IsSetter held .stereoMode hal.dsSetStereoMode
  setsStereoAuto : IsSetter held .stereoAuto hal.dsSetStereoAuto
  setsLEConfig : IsSetter held .leEnabled hal.dsEnableLEConfig
  setsGain : IsSetter held .gain hal.dsSetAudioGain
  setsLevel : IsSetter held .level hal.dsSetAudioLevel
  setsDelay : IsSetter held .delay hal.dsSetAudioDelay
  setsPrimaryLanguage : IsSetter held .primaryLanguage hal.dsSetPrimaryLanguage
  setsSecondaryLanguage : IsSetter held .secondaryLanguage hal.dsSetSecondaryLanguage
  setsFaderControl : IsSetter held .faderControl hal.dsSetFaderControl
  setsAssociatedAudioMixing :
    IsSetter held .associatedAudioMixing hal.dsSetAssociatedAudioMixing
  ms12 : ∀ state handle call, (hal.ms12Call state handle call).1 = .ok () ∧
    held (hal.ms12Call state handle call).2 = held state
  profile : ∀ state handle name, (hal.dsSetMS12AudioProfile state handle name).1 = .ok () ∧
    held (hal.dsSetMS12AudioProfile state handle name).2 = held state
  inits : ∀ state, (hal.dsAudioPortInit state).1 = .ok () ∧
    held (hal.dsAudioPortInit state).2 = held state
  forgets : ∀ state, (hal.dsAudioPortTerm state).1 = .ok () ∧
    held (hal.dsAudioPortTerm state).2 = unset

theorem ActivationHal.Stores.keepsMs12 {hal : ActivationHal σ} {held : σ → HalAudioSettings}
    {unset : HalAudioSettings} (stores : hal.Stores held unset) (state : σ) (handle : Int)
    (call : DsMs12Call) : held (hal.ms12Call state handle call).2 = held state :=
  (stores.ms12 state handle call).2

/-- A stretch of the startup code that changes settings of the HAL and writes no property. -/
structure Configures (held : σ → HalAudioSettings) (before after : Plugin σ)
    (change : HalAudioSettings → HalAudioSettings) : Prop where
  initialized : after.audio.isInitialized = before.audio.isInitialized
  store : after.store = before.store
  files : after.files = before.files
  held : held after.hal = change (held before.hal)

namespace Configures

variable {held : σ → HalAudioSettings} {first second third : Plugin σ}
  {change other : HalAudioSettings → HalAudioSettings}

theorem refl (plugin : Plugin σ) : Configures held plugin plugin id := ⟨rfl, rfl, rfl, rfl⟩

theorem trans (left : Configures held first second change)
    (right : Configures held second third other) :
    Configures held first third (other ∘ change) where
  initialized := right.initialized.trans left.initialized
  store := right.store.trans left.store
  files := right.files.trans left.files
  held := right.held.trans (congrArg other left.held)

theorem congr (configures : Configures held first second change)
    (same : ∀ settings, change settings = other settings) :
    Configures held first second other where
  initialized := configures.initialized
  store := configures.store
  files := configures.files
  held := configures.held.trans (same _)

theorem ready (configures : Configures held first second change)
    (ready : first.store.isInitialized = true) : second.store.isInitialized = true := by
  rw [configures.store]
  exact ready

end Configures

/-! ### The MS12 calls -/

section Ms12

variable {hal : ActivationHal σ} {held : σ → HalAudioSettings}
  (ms12 : ∀ state handle call, held (hal.ms12Call state handle call).2 = held state)

/-- A stretch that leaves the settings of this module alone. -/
abbrev Quiet (held : σ → HalAudioSettings) (before after : Plugin σ) : Prop :=
  Configures held before after id

theorem Quiet.trans {held : σ → HalAudioSettings} {first second third : Plugin σ}
    (left : Quiet held first second) (right : Quiet held second third) :
    Quiet held first third :=
  Configures.trans left right

theorem getProperty_of_ready {store : HostPersistence} (ready : store.isInitialized = true)
    (files : Files String) (key : String) :
    store.getProperty files key = ((store.getProperty files key).1, store) :=
  Prod.ext rfl (by rw [store.getProperty_snd, HostPersistence.ensureInitialized_of_ready ready])

theorem getDefaultProperty_of_ready {store : HostPersistence}
    (ready : store.isInitialized = true) (files : Files String) (key : String) :
    store.getDefaultProperty files key = ((store.getDefaultProperty files key).1, store) :=
  Prod.ext rfl
    (by rw [store.getDefaultProperty_snd, HostPersistence.ensureInitialized_of_ready ready])

include ms12 in
theorem quiet_initializeOnPorts (plugin : Plugin σ) (call : DsMs12Call) :
    Quiet held plugin (plugin.initializeOnPorts hal.toMs12ProfileHal.toMs12Hal call) := by
  unfold Plugin.initializeOnPorts
  apply List.foldlRecOn
  · exact Configures.refl plugin
  · intro before quiet type _
    split
    · exact ⟨quiet.initialized, quiet.store, quiet.files,
        (ms12 before.hal _ call).trans quiet.held⟩
    · exact quiet

section Ready

variable {plugin : Plugin σ} (ready : plugin.store.isInitialized = true)

include ready in
theorem readProperty_snd_of_ready (key fallback : String) :
    (plugin.readProperty key fallback).2 = plugin := by
  rw [Plugin.readProperty_snd, HostPersistence.ensureInitialized_of_ready ready]

include ready in
theorem readPair_snd_of_ready (first second : String) :
    (plugin.readPair first second).2.2 = plugin := by
  have defaults : (Plugin.readPair.defaultPair first second plugin).2.2 = plugin := by
    unfold Plugin.readPair.defaultPair
    rw [getDefaultProperty_of_ready ready]
    cases (plugin.store.getDefaultProperty plugin.files first).1 with
    | error error => rfl
    | ok left =>
        dsimp only
        rw [getDefaultProperty_of_ready ready]
        cases (plugin.store.getDefaultProperty plugin.files second).1 <;> rfl
  unfold Plugin.readPair
  rw [getProperty_of_ready ready]
  cases (plugin.store.getProperty plugin.files first).1 with
  | error error => exact defaults
  | ok left =>
      dsimp only
      rw [getProperty_of_ready ready]
      cases (plugin.store.getProperty plugin.files second).1 with
      | error error => exact defaults
      | ok right => rfl

include ms12 ready

theorem quiet_initializeSetting (setting : Ms12Setting) (key fallback : String)
    (call : String → DsMs12Call) :
    Quiet held plugin
      (plugin.initializeSetting hal.toMs12ProfileHal.toMs12Hal setting key fallback call) := by
  unfold Plugin.initializeSetting
  split_ifs
  · dsimp only
    rw [readProperty_snd_of_ready ready]
    exact quiet_initializeOnPorts ms12 plugin _
  · exact Configures.refl plugin

theorem quiet_initializeDolbyVolumeMode :
    Quiet held plugin (plugin.initializeDolbyVolumeMode hal.toMs12ProfileHal.toMs12Hal).2 := by
  unfold Plugin.initializeDolbyVolumeMode
  split_ifs
  · rw [getProperty_of_ready ready]
    cases (plugin.store.getProperty plugin.files "audio.DolbyVolumeMode").1 with
    | ok value => exact quiet_initializeOnPorts ms12 plugin _
    | error error =>
        dsimp only
        rw [getDefaultProperty_of_ready ready]
        cases (plugin.store.getDefaultProperty plugin.files "audio.DolbyVolumeMode").1 with
        | ok value => exact quiet_initializeOnPorts ms12 plugin _
        | error error => exact quiet_initializeOnPorts ms12 plugin _
  · exact Configures.refl plugin

theorem quiet_initializeVolumeLeveller (dolbyVolumeOverrideCheck : Bool) :
    Quiet held plugin (plugin.initializeVolumeLeveller hal.toMs12ProfileHal.toMs12Hal
      dolbyVolumeOverrideCheck) := by
  unfold Plugin.initializeVolumeLeveller
  dsimp only
  rw [readPair_snd_of_ready ready]
  split_ifs
  · exact quiet_initializeOnPorts ms12 plugin _
  · exact Configures.refl plugin
  · exact Configures.refl plugin

theorem quiet_initializeSurroundVirtualizer :
    Quiet held plugin
      (plugin.initializeSurroundVirtualizer hal.toMs12ProfileHal.toMs12Hal) := by
  unfold Plugin.initializeSurroundVirtualizer
  dsimp only
  rw [readPair_snd_of_ready ready]
  split_ifs
  · exact quiet_initializeOnPorts ms12 plugin _
  · exact Configures.refl plugin

end Ready

/-- A step that is quiet on every loaded store. -/
def AlwaysQuiet (held : σ → HalAudioSettings) (step : Plugin σ → Plugin σ) : Prop :=
  ∀ plugin : Plugin σ, plugin.store.isInitialized = true → Quiet held plugin (step plugin)

theorem AlwaysQuiet.step {held : σ → HalAudioSettings} {start before : Plugin σ}
    {step : Plugin σ → Plugin σ} (always : AlwaysQuiet held step)
    (ready : start.store.isInitialized = true) (quiet : Quiet held start before) :
    Quiet held start (step before) :=
  quiet.trans (always before (quiet.ready ready))

include ms12 in
theorem alwaysQuiet_initializeIndividualMS12Settings :
    AlwaysQuiet held
      (Plugin.initializeIndividualMS12Settings hal.toMs12ProfileHal.toMs12Hal) := by
  set entry := hal.toMs12ProfileHal.toMs12Hal
  have single : ∀ (plugin : Plugin σ) setting key fallback call,
      plugin.store.isInitialized = true →
        Quiet held plugin (plugin.initializeSetting entry setting key fallback call) :=
    fun plugin setting key fallback call ready =>
      quiet_initializeSetting ms12 ready setting key fallback call
  have compression : AlwaysQuiet held (Plugin.initializeAudioCompression entry) :=
    fun plugin => single plugin _ _ _ _
  have enhancement : AlwaysQuiet held (Plugin.initializeDialogEnhancement entry) :=
    fun plugin => single plugin _ _ _ _
  have dolby : AlwaysQuiet held fun plugin => (plugin.initializeDolbyVolumeMode entry).2 :=
    fun plugin ready => quiet_initializeDolbyVolumeMode ms12 ready
  have equalizer : AlwaysQuiet held (Plugin.initializeIntelligentEqualizerMode entry) :=
    fun plugin => single plugin _ _ _ _
  have leveller : ∀ check, AlwaysQuiet held fun plugin =>
      plugin.initializeVolumeLeveller entry check :=
    fun check plugin ready => quiet_initializeVolumeLeveller ms12 ready check
  have bass : AlwaysQuiet held (Plugin.initializeBassEnhancer entry) :=
    fun plugin => single plugin _ _ _ _
  have decoder : AlwaysQuiet held (Plugin.initializeSurroundDecoder entry) :=
    fun plugin => single plugin _ _ _ _
  have drc : AlwaysQuiet held (Plugin.initializeDRCMode entry) :=
    fun plugin => single plugin _ _ _ _
  have virtualizer : AlwaysQuiet held (Plugin.initializeSurroundVirtualizer entry) :=
    fun plugin ready => quiet_initializeSurroundVirtualizer ms12 ready
  have steering : AlwaysQuiet held (Plugin.initializeMISteering entry) :=
    fun plugin => single plugin _ _ _ _
  have graphic : AlwaysQuiet held (Plugin.initializeGraphicEqualizerMode entry) :=
    fun plugin => single plugin _ _ _ _
  intro plugin ready
  unfold Plugin.initializeIndividualMS12Settings
  refine graphic.step ready (steering.step ready (virtualizer.step ready (drc.step ready ?_)))
  refine decoder.step ready (bass.step ready ((leveller _).step ready ?_))
  refine equalizer.step ready (dolby.step ready (enhancement.step ready ?_))
  exact compression plugin ready

theorem alwaysQuiet_withStored {held : σ → HalAudioSettings} (key : String)
    {tell : String → Plugin σ → Plugin σ} (told : ∀ value, AlwaysQuiet held (tell value)) :
    AlwaysQuiet held fun plugin => plugin.withStored key tell := by
  intro plugin ready
  dsimp only [Plugin.withStored]
  rw [getProperty_of_ready ready]
  cases (plugin.store.getProperty plugin.files key).1 with
  | ok value => exact told value plugin ready
  | error error => exact Configures.refl plugin

theorem alwaysQuiet_initializeOverride {hal : Ms12Hal σ} {held : σ → HalAudioSettings}
    (name : String) (setting : Ms12Setting) {tell : Plugin σ → Plugin σ}
    (told : AlwaysQuiet held tell) :
    AlwaysQuiet held (Plugin.initializeOverride hal name setting tell) := by
  intro plugin ready
  have same : (plugin.profileOverride name).2 = plugin := by
    unfold Plugin.profileOverride
    rw [getDefaultProperty_of_ready ready]
    cases (plugin.store.getDefaultProperty plugin.files
      ("audio." ++ name ++ ".ms12ProfileOverride")).1 <;> rfl
  unfold Plugin.initializeOverride
  dsimp only
  rw [same]
  split_ifs
  · exact told plugin ready
  · exact Configures.refl plugin

include ms12 in
theorem alwaysQuiet_initializeSingle (name : String) (setting : Ms12Setting) (key : String)
    (call : String → DsMs12Call) :
    AlwaysQuiet held (Plugin.initializeSingle hal.toMs12ProfileHal.toMs12Hal name setting key
      call) :=
  alwaysQuiet_initializeOverride name setting (alwaysQuiet_withStored key fun value plugin _ =>
    quiet_initializeOnPorts ms12 plugin (call value))

theorem getCurrentProfileProperty_snd {plugin : Plugin σ}
    (ready : plugin.store.isInitialized = true) (property : String) :
    (plugin.getCurrentProfileProperty property).2 = plugin := by
  unfold Plugin.getCurrentProfileProperty
  rw [getProperty_of_ready ready]
  cases (plugin.store.getProperty plugin.files "audio.MS12Profile").1 <;> rfl

include ms12 in
theorem alwaysQuiet_initializePair (name : String) (setting : Ms12Setting)
    (first second : String) (call : Int → Int → DsMs12Call) :
    AlwaysQuiet held (Plugin.initializePair hal.toMs12ProfileHal.toMs12Hal name setting first
      second call) := by
  refine alwaysQuiet_initializeOverride name setting fun plugin ready => ?_
  dsimp only
  rw [getCurrentProfileProperty_snd ready, getCurrentProfileProperty_snd ready]
  refine alwaysQuiet_withStored _ (fun mode => ?_) plugin ready
  exact alwaysQuiet_withStored _ fun level plugin _ => quiet_initializeOnPorts ms12 plugin _

include ms12 in
theorem alwaysQuiet_initializeDialogEnhancer :
    AlwaysQuiet held
      (Plugin.initializeDialogEnhancer hal.toMs12ProfileHal.toMs12Hal) := by
  refine alwaysQuiet_initializeOverride _ _ fun plugin ready => ?_
  dsimp only
  rw [getCurrentProfileProperty_snd ready]
  exact alwaysQuiet_withStored _ (fun value plugin _ =>
    quiet_initializeOnPorts ms12 plugin _) plugin ready

include ms12 in
theorem alwaysQuiet_initializeMS12ProfileOverrides :
    AlwaysQuiet held
      (Plugin.initializeMS12ProfileOverrides hal.toMs12ProfileHal.toMs12Hal) := by
  have single := alwaysQuiet_initializeSingle ms12
  have pair := alwaysQuiet_initializePair ms12
  have enhancer := alwaysQuiet_initializeDialogEnhancer ms12
  have each : ∀ step ∈ Plugin.profileOverrides hal.toMs12ProfileHal.toMs12Hal,
      AlwaysQuiet held step := by
    simp only [Plugin.profileOverrides, List.forall_mem_cons]
    exact ⟨single _ _ _ _, enhancer, single _ _ _ _, single _ _ _ _, pair _ _ _ _ _,
      single _ _ _ _, single _ _ _ _, single _ _ _ _, pair _ _ _ _ _, single _ _ _ _,
      single _ _ _ _, fun step none => absurd none List.not_mem_nil⟩
  intro plugin ready
  unfold Plugin.initializeMS12ProfileOverrides
  apply List.foldlRecOn (motive := fun after => Quiet held plugin after)
  · exact Configures.refl plugin
  · intro before quiet step member
    exact (each step member).step ready quiet

end Ms12

end Contract

/-! ### The ports of the HAL -/

section Ports

variable {σ : Type}

/-- The ports of a list that the HAL has, with their handles. -/
def halPorts (hal : AudioHal σ) (state : σ) (ports : List DsAudioPortType) :
    List (DsAudioPortType × Int) :=
  ports.filterMap fun portType =>
    match hal.dsGetAudioPort state portType 0 with
    | .ok handle => some (portType, handle)
    | .error _ => none

/-- A value for each of these ports. -/
def portTargets {α : Type} (hal : AudioHal σ) (state : σ) (ports : List DsAudioPortType)
    (value : DsAudioPortType → α) : List (Int × α) :=
  (halPorts hal state ports).map fun port => (port.2, value port.1)

theorem mem_halPorts {hal : AudioHal σ} {state : σ} {ports : List DsAudioPortType}
    {portType : DsAudioPortType} {handle : Int} :
    (portType, handle) ∈ halPorts hal state ports ↔
      portType ∈ ports ∧ hal.dsGetAudioPort state portType 0 = .ok handle := by
  simp only [halPorts, List.mem_filterMap]
  constructor
  · rintro ⟨other, member, found⟩
    cases port : hal.dsGetAudioPort state other 0 with
    | error error => simp [port] at found
    | ok otherHandle =>
        simp only [port, Option.some.injEq, Prod.mk.injEq] at found
        obtain ⟨rfl, rfl⟩ := found
        exact ⟨member, port⟩
  · rintro ⟨member, port⟩
    exact ⟨portType, member, by rw [port]⟩

/-- No two ports have one handle. -/
theorem nodup_halPorts {hal : AudioHal σ} (distinct : hal.DistinctPorts) (state : σ)
    {ports : List DsAudioPortType} (nodup : ports.Nodup) :
    ((halPorts hal state ports).map Prod.snd).Nodup := by
  rw [List.nodup_map_iff_inj_on]
  · rintro ⟨portType, handle⟩ member ⟨other, otherHandle⟩ otherMember same
    have first := (mem_halPorts.mp member).2
    have second := (mem_halPorts.mp otherMember).2
    cases same
    rw [distinct.distinct state portType other _ first second]
  · refine nodup.filterMap fun left right port found other => ?_
    cases leftPort : hal.dsGetAudioPort state left 0 with
    | error error => simp [leftPort] at found
    | ok handle =>
        cases rightPort : hal.dsGetAudioPort state right 0 with
        | error error => simp [rightPort] at other
        | ok otherHandle =>
            simp only [leftPort, rightPort, Option.mem_def, Option.some.injEq] at found other
            exact (Prod.mk.inj (found.trans other.symm)).1

theorem portTargets_cons {α : Type} (hal : AudioHal σ) (state : σ) (portType : DsAudioPortType)
    (ports : List DsAudioPortType) (value : DsAudioPortType → α) :
    portTargets hal state (portType :: ports) value =
      match hal.dsGetAudioPort state portType 0 with
      | .ok handle => (handle, value portType) :: portTargets hal state ports value
      | .error _ => portTargets hal state ports value := by
  unfold portTargets halPorts
  rw [List.filterMap_cons]
  cases hal.dsGetAudioPort state portType 0 <;> rfl

end Ports

/-! ### The sections -/

section Sections

variable {σ : Type} {hal : ActivationHal σ} {held : σ → HalAudioSettings}
  {unset : HalAudioSettings} (stores : hal.Stores held unset)

/-- What is done for one port of a section: a setting is set to what the text says. -/
def SetsPort (held : σ → HalAudioSettings) (setting : AudioSetting)
    (apply : DsAudioPortType → Int → String → VolumePlugin σ → VolumePlugin σ)
    (value : String → setting.Value) : Prop :=
  ∀ portType handle text (state : VolumePlugin σ),
    Configures held state.plugin (apply portType handle text state).plugin fun settings =>
      settings.set setting handle (value text)

include stores in
theorem setsPort_gain :
    SetsPort held .gain (VolumePlugin.applyGain hal.toPortSettingsHal) atof :=
  fun _ handle text state =>
    ⟨rfl, rfl, rfl, (stores.setsGain state.plugin.hal handle (atof text)).2⟩

include stores in
theorem setsPort_level :
    SetsPort held .level (VolumePlugin.applyLevel hal.toPortSettingsHal) atof :=
  fun _ handle text state =>
    ⟨rfl, rfl, rfl, (stores.setsLevel state.plugin.hal handle (atof text)).2⟩

/-- The delay that is passed on for a text. -/
def delayValue (text : String) : Nat := (atoi text % 2 ^ 32).toNat

include stores in
theorem setsPort_delay :
    SetsPort held .delay (VolumePlugin.applyDelay hal.toPortSettingsHal) delayValue :=
  fun _ handle text state =>
    ⟨rfl, rfl, rfl, (stores.setsDelay state.plugin.hal handle (delayValue text)).2⟩

include stores in
/-- A section assigns its setting for the ports that the HAL has. -/
theorem configures_initializePorts {setting : AudioSetting}
    {apply : DsAudioPortType → Int → String → VolumePlugin σ → VolumePlugin σ}
    {value : String → setting.Value} (sets : SetsPort held setting apply value)
    {key : DsAudioPortType → Option String}
    (named : ∀ portType own, key portType = some own → own ≠ "") (fallback : String)
    (ports : List DsAudioPortType) (start : σ) {state : VolumePlugin σ}
    (ready : state.plugin.store.isInitialized = true) :
    Configures held state.plugin
      (ports.foldl (VolumePlugin.initializePort hal.toPortSettingsHal key fallback apply)
        state).plugin fun settings =>
      settings.assign setting (portTargets hal.toAudioHal start ports fun portType =>
        value (storedText state.plugin.store key fallback portType)) := by
  induction ports generalizing state with
  | nil =>
      refine (Configures.refl state.plugin).congr fun settings => ?_
      simp [portTargets, halPorts]
  | cons portType ports ih =>
      rw [List.foldl_cons, initializePort_eq named ready, portTargets_cons,
        stores.ports.fixed start state.plugin.hal]
      cases port : hal.dsGetAudioPort state.plugin.hal portType 0 with
      | error error => exact ih ready
      | ok handle =>
          have turn := sets portType handle
            (storedText state.plugin.store key fallback portType) state
          have rest := ih (turn.ready ready)
          rw [turn.store] at rest
          exact (turn.trans rest).congr fun settings => by simp

/-- A setting without a port is set under the handle 0. -/
theorem configures_initializeConfig {setting : AudioSetting}
    {set : σ → Int → setting.Value → Except DsError Unit × σ}
    (setter : IsSetter held setting set) {key : String} (named : key ≠ "")
    (fallback : String) (value : String → setting.Value) {state : VolumePlugin σ}
    (ready : state.plugin.store.isInitialized = true) :
    Configures held state.plugin
      (state.initializeConfig key fallback
        fun hal handle text => set hal handle (value text)).plugin
      fun settings => settings.assign setting
        [(0, value (storedValue state.plugin.store key fallback))] := by
  unfold VolumePlugin.initializeConfig
  dsimp only
  rw [Plugin.readProperty_of_ready ready named]
  refine ⟨rfl, rfl, rfl, ?_⟩
  rw [HalAudioSettings.assign_cons, HalAudioSettings.assign_nil]
  exact (setter state.plugin.hal 0 _).2

/-! #### Stereo settings -/

/-- The text the startup code has for the mode of a port. -/
def storedMode (build : AudioBuild) (store : HostPersistence) (portType : DsAudioPortType) :
    String :=
  let fallback := modeFallback build.ignoreEdidLogic portType
  if portType = .hdmi then storedText store audioModeKey fallback portType
  else ((audioModeKey portType).bind store.properties.find?).getD fallback

/-- The mode that is set for a port. -/
def stereoModeValue (build : AudioBuild) (store : HostPersistence)
    (portType : DsAudioPortType) : DsAudioStereoMode :=
  startupMode build.ignoreEdidLogic portType (storedMode build store portType)

/-- The auto flag that is set for a port. -/
def stereoAutoValue (build : AudioBuild) (store : HostPersistence)
    (portType : DsAudioPortType) : Int :=
  if storedText store audioModeAutoKey (autoFallback build.ignoreEdidLogic portType) portType =
    "TRUE" then 1 else 0

theorem readStartupMode_eq (build : AudioBuild) {plugin : Plugin σ}
    (ready : plugin.store.isInitialized = true) (portType : DsAudioPortType) :
    (StereoPlugin.readStartupMode build.ignoreEdidLogic plugin portType).1 =
      stereoModeValue build plugin.store portType := by
  unfold StereoPlugin.readStartupMode stereoModeValue storedMode storedText
  cases keyed : audioModeKey portType with
  | none => simp
  | some key =>
      dsimp only
      split_ifs
      · rw [Plugin.readProperty_of_ready ready (audioModeKey_ne keyed)]
      · rw [Plugin.readPropertyOr_of_ready ready (audioModeKey_ne keyed)]
        rfl

theorem readStartupAuto_eq (build : AudioBuild) {plugin : Plugin σ}
    (ready : plugin.store.isInitialized = true) (portType : DsAudioPortType) :
    (if (StereoPlugin.readStartupAuto build.ignoreEdidLogic plugin portType).1 then 1 else 0) =
      stereoAutoValue build plugin.store portType := by
  have read : (StereoPlugin.readStartupAuto build.ignoreEdidLogic plugin portType).1 =
      decide (storedText plugin.store audioModeAutoKey
        (autoFallback build.ignoreEdidLogic portType) portType = "TRUE") := by
    unfold StereoPlugin.readStartupAuto storedText
    cases keyed : audioModeAutoKey portType with
    | none => rfl
    | some key =>
        dsimp only
        rw [Plugin.readProperty_of_ready ready (audioModeAutoKey_ne keyed)]
  simp only [read, decide_eq_true_eq, stereoAutoValue]

/-- A property is read from what the first access loads. -/
theorem readProperty_loads (plugin : Plugin σ) {key : String} (named : key ≠ "")
    (fallback : String) :
    plugin.readProperty key fallback =
      ({ plugin with store := plugin.store.ensureInitialized plugin.files } :
        Plugin σ).readProperty key fallback := by
  apply Prod.ext
  · rw [Plugin.readProperty_fst plugin named, Plugin.readProperty_fst _ named,
      HostPersistence.ensureInitialized_idem]
  · rw [Plugin.readProperty_snd, Plugin.readProperty_snd, HostPersistence.ensureInitialized_idem]

/-- The first property that is read loads the store. -/
theorem readStartupSettings_loads (build : AudioBuild) (stereo : StereoPlugin σ) :
    let store := stereo.plugin.store.ensureInitialized stereo.plugin.files
    stereo.readStartupSettings build.ignoreEdidLogic =
      ({ stereo with plugin.store := store } : StereoPlugin σ).readStartupSettings
        build.ignoreEdidLogic := by
  intro store
  have first : StereoPlugin.readStartupMode build.ignoreEdidLogic stereo.plugin .hdmi =
      StereoPlugin.readStartupMode build.ignoreEdidLogic
        { stereo.plugin with store := store } .hdmi :=
    congrArg (fun read : String × Plugin σ =>
        (startupMode build.ignoreEdidLogic .hdmi read.1, read.2))
      (readProperty_loads stereo.plugin (show "HDMI0.AudioMode" ≠ "" by decide) _)
  unfold StereoPlugin.readStartupSettings
  dsimp only
  rw [first]

include stores in
theorem configures_applyStartupSettings (stereo : StereoPlugin σ) (portType : DsAudioPortType) :
    Configures held stereo.plugin
      (stereo.applyStartupSettings hal.toStereoAutoHal portType).plugin fun settings =>
        match hal.dsGetAudioPort stereo.plugin.hal portType 0 with
        | .ok handle =>
          (settings.set .stereoMode handle (stereo.globals.toldHal portType).1).set .stereoAuto
            handle (stereo.globals.toldHal portType).2
        | .error _ => settings := by
  unfold StereoPlugin.applyStartupSettings
  cases port : hal.dsGetAudioPort stereo.plugin.hal portType 0 with
  | error error => exact Configures.refl stereo.plugin
  | ok handle =>
      refine ⟨rfl, rfl, rfl, ?_⟩
      exact (stores.setsStereoAuto _ handle _).2.trans
        (congrArg (fun settings => HalAudioSettings.set settings .stereoAuto handle _)
          (stores.setsStereoMode stereo.plugin.hal handle _).2)

include stores in
/-- The loop over the stereo ports. -/
theorem configures_foldl_applyStartupSettings (ports : List DsAudioPortType) (start : σ)
    (stereo : StereoPlugin σ) :
    Configures held stereo.plugin
        (ports.foldl (StereoPlugin.applyStartupSettings hal.toStereoAutoHal) stereo).plugin
        fun settings =>
          (settings.assign .stereoMode (portTargets hal.toAudioHal start ports fun portType =>
            (stereo.globals.toldHal portType).1)).assign .stereoAuto
              (portTargets hal.toAudioHal start ports fun portType =>
                (stereo.globals.toldHal portType).2) := by
  induction ports generalizing stereo with
  | nil =>
      exact (Configures.refl stereo.plugin).congr fun settings =>
        ((HalAudioSettings.assign_nil _ .stereoAuto).trans
          (HalAudioSettings.assign_nil settings .stereoMode)).symm
  | cons portType ports ih =>
      have turn := configures_applyStartupSettings stores stereo portType
      have rest := ih (stereo.applyStartupSettings hal.toStereoAutoHal portType)
      have globals : (stereo.applyStartupSettings hal.toStereoAutoHal portType).globals =
          stereo.globals := by
        unfold StereoPlugin.applyStartupSettings
        split <;> rfl
      rw [globals] at rest
      refine (turn.trans rest).congr fun settings => ?_
      simp only [Function.comp_apply]
      rw [portTargets_cons, portTargets_cons, stores.ports.fixed start stereo.plugin.hal]
      cases hal.dsGetAudioPort stereo.plugin.hal portType 0 with
      | error error => rfl
      | ok handle =>
          rw [HalAudioSettings.assign_cons settings .stereoMode,
            HalAudioSettings.assign_cons _ .stereoAuto,
            HalAudioSettings.set_assign (show AudioSetting.stereoAuto ≠ .stereoMode by decide)]

/-- The targets of the stereo mode. -/
def stereoModeTargets (hal : ActivationHal σ) (build : AudioBuild) (state : σ)
    (store : HostPersistence) : List (Int × DsAudioStereoMode) :=
  portTargets hal.toAudioHal state stereoPorts (stereoModeValue build store)

/-- The targets of the auto flag. -/
def stereoAutoTargets (hal : ActivationHal σ) (build : AudioBuild) (state : σ)
    (store : HostPersistence) : List (Int × Int) :=
  portTargets hal.toAudioHal state stereoPorts (stereoAutoValue build store)

include stores in
/-- `initializeAudioSettings` loads the store and assigns the stereo settings. -/
theorem configures_initializeAudioSettings (build : AudioBuild) (process : AudioProcess σ)
    (start : σ) :
    let plugin := process.volume.plugin
    let store := plugin.store.ensureInitialized plugin.files
    let after := process.initializeAudioSettings hal build
    Configures held { plugin with store := store } after.volume.plugin (fun settings =>
        (settings.assign .stereoMode (stereoModeTargets hal build start store)).assign .stereoAuto
          (stereoAutoTargets hal build start store)) ∧
      after.statics = process.statics := by
  intro plugin store after
  have ready : store.isInitialized = true := plugin.store.ensureInitialized_isInitialized _
  set read := (⟨{ plugin with store := store }, process.globals⟩ :
    StereoPlugin σ).readStartupSettings build.ignoreEdidLogic with readEq
  have sameRead : (⟨plugin, process.globals⟩ : StereoPlugin σ).readStartupSettings
      build.ignoreEdidLogic = read := readStartupSettings_loads build _
  have loaded : read.plugin = { plugin with store := store } := by
    rw [readEq, StereoPlugin.readStartupSettings_plugin]
    exact congrArg (fun store => { plugin with store := store })
      (HostPersistence.ensureInitialized_of_ready ready _)
  have told : ∀ portType, read.globals.toldHal portType =
      (stereoModeValue build store portType, stereoAutoValue build store portType) := by
    intro portType
    have read : (⟨{ plugin with store := store }, process.globals⟩ :
        StereoPlugin σ).plugin.store.isInitialized = true := ready
    obtain ⟨mode, auto⟩ :=
      StereoPlugin.readStartupSettings_globals build.ignoreEdidLogic read portType
    refine Prod.ext (mode.trans (readStartupMode_eq build ready portType)) ?_
    exact (congrArg (fun flag : Bool => if flag = true then (1 : Int) else 0) auto).trans
      (readStartupAuto_eq build ready portType)
  have loop := configures_foldl_applyStartupSettings stores stereoPorts start read
  rw [loaded] at loop
  simp only [told] at loop
  refine ⟨?_, rfl⟩
  have quiet : Quiet held
      (stereoPorts.foldl (StereoPlugin.applyStartupSettings hal.toStereoAutoHal) read).plugin
      after.volume.plugin := by
    show Quiet held _ (Plugin.initializeMS12Settings _ _)
    unfold StereoPlugin.initializeAudioPortSettings Plugin.initializeMS12Settings
    rw [sameRead]
    split_ifs
    · exact quiet_initializeOnPorts stores.keepsMs12 _ _
    · exact Configures.refl _
  exact (loop.trans quiet).congr fun _ => rfl

end Sections

end DeviceSettings.Audio
