import DeviceSettings.Audio.Ms12Startup

/-!
# Audio processing settings over a restart

Seven of the ten setters write a property that the startup code reads back. The other three
write a property of the profile `Off`, which it never looks at, so what they have set is gone.
-/

namespace DeviceSettings.Audio

open DeviceSettings.Std
open DeviceSettings.Persistence

/-! ### What the startup code reads -/

/-- Two bindings of one map. -/
def boundPair (map : Properties) (first second : String) : Option (String × String) :=
  match map.find? first, map.find? second with
  | some left, some right => some (left, right)
  | _, _ => none

/-- Two properties, else their defaults, else zeros. -/
def storedPair (store : HostPersistence) (first second : String) : String × String :=
  ((boundPair store.properties first second).or
    (boundPair store.defaultProperties first second)).getD ("0", "0")

/-- The volume leveller is told to the HAL at startup. -/
def TellsVolumeLeveller (store : HostPersistence) : Prop :=
  store.properties.find? "audio.DolbyVolumeMode" = none ∨
    boundPair store.properties "audio.VolumeLeveller.mode" "audio.VolumeLeveller.level" ≠ none

instance (store : HostPersistence) : Decidable (TellsVolumeLeveller store) :=
  inferInstanceAs (Decidable (_ ∨ _))

/-- The call for the volume leveller, where there is one. -/
def volumeLevellerCalls (store : HostPersistence) : List DsMs12Call :=
  let pair := storedPair store "audio.VolumeLeveller.mode" "audio.VolumeLeveller.level"
  if TellsVolumeLeveller store then [.dsSetVolumeLeveller (atoi pair.1) (atoi pair.2)] else []

/-- What the startup code tells the HAL, in its order. -/
def startupCalls (store : HostPersistence) : List DsMs12Call :=
  let virtualizer :=
    storedPair store "audio.SurroundVirtualizer.mode" "audio.SurroundVirtualizer.boost"
  [.dsSetAudioCompression (atoi (storedValue store "audio.Compression" "0")),
    .dsSetDialogEnhancement (atoi (storedValue store "audio.EnhancerLevel" "0")),
    .dsSetDolbyVolumeMode (storedValue store "audio.DolbyVolumeMode" "FALSE" = "TRUE"),
    .dsSetIntelligentEqualizerMode (atoi (storedValue store "audio.IntelligentEQ" "0"))] ++
  volumeLevellerCalls store ++
  [.dsSetBassEnhancer (atoi (storedValue store "audio.BassBoost" "0")),
    .dsEnableSurroundDecoder (storedValue store "audio.SurroundDecoderEnabled" "FALSE" = "TRUE"),
    .dsSetDRCMode (if storedValue store "audio.DRCMode" "Line" = "RF" then 1 else 0),
    .dsSetSurroundVirtualizer (atoi virtualizer.1) (atoi virtualizer.2),
    .dsSetMISteering (storedValue store "audio.MISteering" "Disabled" = "Enabled"),
    .dsSetGraphicEqualizerMode (atoi (storedValue store "audio.GraphicEQ" "0"))]

namespace Plugin

variable {σ : Type} {hal : Ms12Hal σ}

/-- The HAL alone has moved on. -/
structure OnlyHal (start plugin : Plugin σ) : Prop where
  audio : plugin.audio = start.audio
  store : plugin.store = start.store
  files : plugin.files = start.files

theorem onlyHal_initializeOnPorts (plugin : Plugin σ) (call : DsMs12Call) :
    OnlyHal plugin (plugin.initializeOnPorts hal call) := by
  unfold initializeOnPorts
  apply List.foldlRecOn
  · exact ⟨rfl, rfl, rfl⟩
  · intro before only type _
    split
    · exact ⟨only.audio, only.store, only.files⟩
    · exact only

@[simp] theorem initializeOnPorts_store (plugin : Plugin σ) (call : DsMs12Call) :
    (plugin.initializeOnPorts hal call).store = plugin.store :=
  (onlyHal_initializeOnPorts plugin call).store

theorem foldl_initializeOnPorts_store (calls : List DsMs12Call) (plugin : Plugin σ) :
    (calls.foldl (initializeOnPorts hal) plugin).store = plugin.store := by
  induction calls generalizing plugin with
  | nil => rfl
  | cons call rest ih => rw [List.foldl_cons, ih, initializeOnPorts_store]

section Ready

variable {plugin : Plugin σ} (ready : plugin.store.isInitialized = true)

include ready in
theorem readPair_of_ready {first second : String} (named : first ≠ "" ∧ second ≠ "") :
    plugin.readPair first second =
      ((boundPair plugin.store.properties first second).isSome,
        storedPair plugin.store first second, plugin) := by
  have defaults : readPair.defaultPair first second plugin =
      (false, ((boundPair plugin.store.defaultProperties first second).getD ("0", "0")),
        plugin) := by
    cases left : plugin.store.defaultProperties.find? first <;>
      cases right : plugin.store.defaultProperties.find? second <;>
      simp [readPair.defaultPair, HostPersistence.getDefaultProperty, named,
        HostPersistence.ensureInitialized_of_ready ready, boundPair, left, right]
  cases left : plugin.store.properties.find? first <;>
    cases right : plugin.store.properties.find? second <;>
    simp [readPair, HostPersistence.getProperty, named, defaults, storedPair, boundPair, left,
      right, HostPersistence.ensureInitialized_of_ready ready]

end Ready

section Loaded

variable {store : HostPersistence} (ready : store.isInitialized = true)
  (resolves : ∀ setting, hal.resolves setting = true)

include ready resolves in
theorem initializeSetting_of_ready {setting : Ms12Setting} {key fallback : String}
    {call : String → DsMs12Call} {plugin : Plugin σ} (loaded : plugin.store = store)
    (named : key ≠ "") :
    plugin.initializeSetting hal setting key fallback call =
      plugin.initializeOnPorts hal (call (storedValue store key fallback)) := by
  subst loaded
  simp only [initializeSetting, resolves, if_true, readProperty_of_ready ready named, storedValue]

include ready resolves in
theorem initializeDolbyVolumeMode_of_ready {plugin : Plugin σ} (loaded : plugin.store = store) :
    plugin.initializeDolbyVolumeMode hal =
      (decide (store.properties.find? "audio.DolbyVolumeMode" = none),
        plugin.initializeOnPorts hal (.dsSetDolbyVolumeMode
          (storedValue store "audio.DolbyVolumeMode" "FALSE" = "TRUE"))) := by
  subst loaded
  cases stored : plugin.store.properties.find? "audio.DolbyVolumeMode" <;>
    cases default : plugin.store.defaultProperties.find? "audio.DolbyVolumeMode" <;>
    simp [initializeDolbyVolumeMode, resolves, HostPersistence.getProperty, storedValue,
      HostPersistence.getDefaultProperty, HostPersistence.ensureInitialized_of_ready ready, stored,
      default]

include ready resolves in
theorem initializeVolumeLeveller_of_ready {plugin : Plugin σ} (loaded : plugin.store = store) :
    plugin.initializeVolumeLeveller hal
        (decide (store.properties.find? "audio.DolbyVolumeMode" = none)) =
      (volumeLevellerCalls store).foldl (initializeOnPorts hal) plugin := by
  subst loaded
  have told : (decide (plugin.store.properties.find? "audio.DolbyVolumeMode" = none) ||
      (boundPair plugin.store.properties "audio.VolumeLeveller.mode"
        "audio.VolumeLeveller.level").isSome) = decide (TellsVolumeLeveller plugin.store) := by
    rw [Bool.eq_iff_iff, decide_eq_true_iff, TellsVolumeLeveller]
    simp [Option.isSome_iff_ne_none]
  simp only [initializeVolumeLeveller, volumeLevellerCalls, resolves, if_true,
    readPair_of_ready ready (show "audio.VolumeLeveller.mode" ≠ "" ∧
      "audio.VolumeLeveller.level" ≠ "" by decide), told, decide_eq_true_eq]
  split_ifs <;> rfl

include ready resolves in
theorem initializeSurroundVirtualizer_of_ready {plugin : Plugin σ}
    (loaded : plugin.store = store) :
    plugin.initializeSurroundVirtualizer hal =
      plugin.initializeOnPorts hal (.dsSetSurroundVirtualizer
        (atoi (storedPair store "audio.SurroundVirtualizer.mode"
          "audio.SurroundVirtualizer.boost").1)
        (atoi (storedPair store "audio.SurroundVirtualizer.mode"
          "audio.SurroundVirtualizer.boost").2)) := by
  subst loaded
  simp only [initializeSurroundVirtualizer, resolves, if_true,
    readPair_of_ready ready (show "audio.SurroundVirtualizer.mode" ≠ "" ∧
      "audio.SurroundVirtualizer.boost" ≠ "" by decide)]

include ready resolves in
/-- On a loaded store the startup code is a list of calls to both ports. -/
theorem initializeIndividualMS12Settings_of_ready {plugin : Plugin σ}
    (loaded : plugin.store = store) :
    plugin.initializeIndividualMS12Settings hal =
      (startupCalls store).foldl (initializeOnPorts hal) plugin := by
  simp [initializeIndividualMS12Settings, initializeAudioCompression, initializeDialogEnhancement,
    initializeIntelligentEqualizerMode, initializeBassEnhancer, initializeSurroundDecoder,
    initializeDRCMode, initializeMISteering, initializeGraphicEqualizerMode,
    initializeSetting_of_ready ready resolves, initializeDolbyVolumeMode_of_ready ready resolves,
    initializeVolumeLeveller_of_ready ready resolves,
    initializeSurroundVirtualizer_of_ready ready resolves, loaded, startupCalls,
    foldl_initializeOnPorts_store]

end Loaded

end Plugin

/-! ### The calls -/

/-- The setters with their arguments. -/
inductive Ms12Call where
  | setAudioCompression (compressionLevel : Int32)
  | setAudioDialogEnhancement (level : Int32)
  | setAudioIntelligentEqualizerMode (mode : Int32)
  | setAudioVolumeLeveller (volumeLeveller : VolumeLeveller)
  | setAudioBassEnhancer (boost : Int32)
  | enableAudioSurroudDecoder (enable : Bool)
  | setAudioDRCMode (drcMode : Int32)
  | setAudioSurroudVirtualizer (surroundVirtualizer : SurroundVirtualizer)
  | setAudioMISteering (enable : Bool)
  | setAudioGraphicEqualizerMode (mode : Int32)
  deriving DecidableEq, Repr

namespace Ms12Call

def run {σ : Type} (hal : Ms12Hal σ) (handle : Int) (plugin : Plugin σ) :
    Ms12Call → Except CoreError Unit × Plugin σ
  | .setAudioCompression level => plugin.setAudioCompression hal handle level
  | .setAudioDialogEnhancement level => plugin.setAudioDialogEnhancement hal handle level
  | .setAudioIntelligentEqualizerMode mode =>
    plugin.setAudioIntelligentEqualizerMode hal handle mode
  | .setAudioVolumeLeveller volumeLeveller =>
    plugin.setAudioVolumeLeveller hal handle volumeLeveller
  | .setAudioBassEnhancer boost => plugin.setAudioBassEnhancer hal handle boost
  | .enableAudioSurroudDecoder enable => plugin.enableAudioSurroudDecoder hal handle enable
  | .setAudioDRCMode drcMode => plugin.setAudioDRCMode hal handle drcMode
  | .setAudioSurroudVirtualizer surroundVirtualizer =>
    plugin.setAudioSurroudVirtualizer hal handle surroundVirtualizer
  | .setAudioMISteering enable => plugin.setAudioMISteering hal handle enable
  | .setAudioGraphicEqualizerMode mode => plugin.setAudioGraphicEqualizerMode hal handle mode

/-- What a setter tells the HAL. -/
def told : Ms12Call → DsMs12Call
  | .setAudioCompression level => .dsSetAudioCompression level.toInt
  | .setAudioDialogEnhancement level => .dsSetDialogEnhancement level.toInt
  | .setAudioIntelligentEqualizerMode mode => .dsSetIntelligentEqualizerMode mode.toInt
  | .setAudioVolumeLeveller volumeLeveller =>
    .dsSetVolumeLeveller volumeLeveller.mode.toNat volumeLeveller.level.toNat
  | .setAudioBassEnhancer boost => .dsSetBassEnhancer boost.toInt
  | .enableAudioSurroudDecoder enable => .dsEnableSurroundDecoder enable
  | .setAudioDRCMode drcMode => .dsSetDRCMode drcMode.toInt
  | .setAudioSurroudVirtualizer surroundVirtualizer =>
    .dsSetSurroundVirtualizer surroundVirtualizer.mode.toNat surroundVirtualizer.boost.toNat
  | .setAudioMISteering enable => .dsSetMISteering enable
  | .setAudioGraphicEqualizerMode mode => .dsSetGraphicEqualizerMode mode.toInt

/-- What a setter persists where no MS12 profile is stored. -/
def bindings : Ms12Call → List (String × String)
  | .setAudioCompression level => [("audio.Compression", toString level.toInt)]
  | .setAudioDialogEnhancement level => [("audio.Off.EnhancerLevel", toString level.toInt)]
  | .setAudioIntelligentEqualizerMode mode => [("audio.IntelligentEQ", toString mode.toInt)]
  | .setAudioVolumeLeveller volumeLeveller =>
    ("audio.Off.VolumeLeveller.mode", toString volumeLeveller.mode.toNat) ::
      if volumeLeveller.mode = 0 ∨ volumeLeveller.mode = 1 then
        [("audio.Off.VolumeLeveller.level", toString volumeLeveller.level.toNat)]
      else []
  | .setAudioBassEnhancer boost => [("audio.BassBoost", toString boost.toInt)]
  | .enableAudioSurroudDecoder enable =>
    [("audio.SurroundDecoderEnabled", if enable then "TRUE" else "FALSE")]
  | .setAudioDRCMode drcMode => [("audio.DRCMode", if drcMode.toInt ≠ 0 then "RF" else "Line")]
  | .setAudioSurroudVirtualizer surroundVirtualizer =>
    ("audio.Off.SurroundVirtualizer.mode", toString surroundVirtualizer.mode.toNat) ::
      if surroundVirtualizer.mode ≤ 2 then
        [("audio.Off.SurroundVirtualizer.boost", toString surroundVirtualizer.boost.toNat)]
      else []
  | .setAudioMISteering enable => [("audio.MISteering", if enable then "Enabled" else "Disabled")]
  | .setAudioGraphicEqualizerMode mode => [("audio.GraphicEQ", toString mode.toInt)]

theorem bindings_accepted (call : Ms12Call) :
    ∀ entry ∈ call.bindings, entry.1 ≠ "" ∧ entry.2 ≠ "" := by
  cases call with
  | setAudioVolumeLeveller volumeLeveller =>
      simp only [bindings]
      split_ifs <;> simp
  | setAudioSurroudVirtualizer surroundVirtualizer =>
      simp only [bindings]
      split_ifs <;> simp
  | enableAudioSurroudDecoder enable => cases enable <;> simp [bindings]
  | setAudioMISteering enable => cases enable <;> simp [bindings]
  | setAudioDRCMode drcMode =>
      simp only [bindings]
      split_ifs <;> simp
  | _ => simp [bindings]

end Ms12Call

section Laws

variable {σ : Type} {hal : Ms12Hal σ} {held : σ → Int → Ms12Setting → Option DsMs12Call}
  (stores : hal.Stores held)

include stores in
theorem setMs12Setting_eq (plugin : Plugin σ) (handle : Int) (call : DsMs12Call)
    (persist : Plugin σ → Except CoreError Unit × Plugin σ) :
    plugin.setMs12Setting hal handle call persist =
      persist { plugin with hal := (hal.call plugin.hal handle call).2 } := by
  have succeeds := stores.succeeds plugin.hal handle call
  unfold Plugin.setMs12Setting
  rw [if_neg (by simp [stores.resolves])]
  generalize hal.call plugin.hal handle call = result at succeeds
  obtain ⟨answer, state⟩ := result
  dsimp only at succeeds
  subst succeeds
  rfl

/-- The plugin is up, and no MS12 profile is stored. -/
structure Unprofiled (plugin : Plugin σ) : Prop extends plugin.Up where
  noProfile : plugin.store.properties.find? "audio.MS12Profile" = none

include stores in
/-- A setter tells the HAL and writes its properties, those of a profile under `Off`. -/
theorem run_eq {plugin : Plugin σ} (unprofiled : Unprofiled plugin) (handle : Int)
    (call : Ms12Call) :
    call.run hal handle plugin =
      { plugin with hal := (hal.call plugin.hal handle call.told).2 }.persistProperties
        call.bindings := by
  have guarded : ∀ body, plugin.guardInitialized body = body plugin := by
    intro body
    rw [Plugin.guardInitialized, if_neg (by simp [unprofiled.initialized])]
  have profile : ∀ (state : σ) (property : String),
      Plugin.getCurrentProfileProperty { plugin with hal := state } property =
        (generateProfileProperty "Off" property, { plugin with hal := state }) := by
    intro state property
    have ready : ({ plugin with hal := state } : Plugin σ).store.isInitialized = true :=
      unprofiled.ready
    rw [Plugin.getCurrentProfileProperty_of_ready ready, unprofiled.noProfile]
    rfl
  cases call <;>
    simp only [Ms12Call.run, Plugin.setAudioCompression, Plugin.setAudioDialogEnhancement,
      Plugin.setAudioIntelligentEqualizerMode, Plugin.setAudioVolumeLeveller,
      Plugin.setAudioBassEnhancer, Plugin.enableAudioSurroudDecoder, Plugin.setAudioDRCMode,
      Plugin.setAudioSurroudVirtualizer, Plugin.setAudioMISteering,
      Plugin.setAudioGraphicEqualizerMode, guarded, setMs12Setting_eq stores,
      Plugin.persistProperty_eq, profile] <;>
    rfl

/-- What a call leaves under a key. -/
def Ms12Call.written (key : String) (call : Ms12Call) : Option String :=
  lastOf (Plugin.binding key) call.bindings

/-- The keys the setter of a setting can write, where no MS12 profile is stored. -/
def writtenKeys : Ms12Setting → List String
  | .audioCompression => ["audio.Compression"]
  | .dialogEnhancement => ["audio.Off.EnhancerLevel"]
  | .dolbyVolumeMode => []
  | .intelligentEqualizerMode => ["audio.IntelligentEQ"]
  | .volumeLeveller => ["audio.Off.VolumeLeveller.mode", "audio.Off.VolumeLeveller.level"]
  | .bassEnhancer => ["audio.BassBoost"]
  | .surroundDecoder => ["audio.SurroundDecoderEnabled"]
  | .drcMode => ["audio.DRCMode"]
  | .surroundVirtualizer =>
    ["audio.Off.SurroundVirtualizer.mode", "audio.Off.SurroundVirtualizer.boost"]
  | .miSteering => ["audio.MISteering"]
  | .graphicEqualizerMode => ["audio.GraphicEQ"]

theorem key_mem_writtenKeys (call : Ms12Call) :
    ∀ entry ∈ call.bindings, entry.1 ∈ writtenKeys call.told.setting := by
  cases call with
  | setAudioVolumeLeveller volumeLeveller =>
      simp only [Ms12Call.bindings, Ms12Call.told, DsMs12Call.setting, writtenKeys]
      split_ifs <;> simp
  | setAudioSurroudVirtualizer surroundVirtualizer =>
      simp only [Ms12Call.bindings, Ms12Call.told, DsMs12Call.setting, writtenKeys]
      split_ifs <;> simp
  | _ => simp [Ms12Call.bindings, Ms12Call.told, DsMs12Call.setting, writtenKeys]

theorem written_eq_none {call : Ms12Call} {key : String}
    (other : key ∉ writtenKeys call.told.setting) : call.written key = none := by
  apply lastOf_eq_none
  intro entry member
  have own := key_mem_writtenKeys call entry member
  rw [Plugin.binding, if_neg]
  rintro rfl
  exact other own

/-- Properties that no setter writes. -/
theorem written_unknown {key : String} (unknown : ∀ setting, key ∉ writtenKeys setting)
    (call : Ms12Call) : call.written key = none :=
  written_eq_none (unknown _)

theorem unknownProfile : ∀ setting, "audio.MS12Profile" ∉ writtenKeys setting := by
  intro setting
  cases setting <;> decide

include stores in
/-- One successful call: the HAL has the value and the store the bindings. -/
theorem run_spec {plugin : Plugin σ} (unprofiled : Unprofiled plugin) (handle : Int)
    (call : Ms12Call) :
    (call.run hal handle plugin).1 = .ok () ∧
      Unprofiled (call.run hal handle plugin).2 ∧
      (call.run hal handle plugin).2.store.defaultProperties = plugin.store.defaultProperties ∧
      ∀ key, (call.run hal handle plugin).2.store.properties.find? key =
        (call.written key).or (plugin.store.properties.find? key) := by
  rw [run_eq stores unprofiled]
  have up : Plugin.Up { plugin with hal := (hal.call plugin.hal handle call.told).2 } :=
    ⟨unprofiled.initialized, unprofiled.ready⟩
  obtain ⟨answer, up', -, defaults, found⟩ :=
    Plugin.persistProperties_of_up call.bindings_accepted up
  refine ⟨answer, ⟨up', ?_⟩, defaults, found⟩
  rw [found]
  exact (congrArg (Option.or · _) (written_unknown unknownProfile call)).trans unprofiled.noProfile

include stores in
/-- A run of calls on one port: each property has what the last call wrote to it. -/
theorem after_calls {start : Plugin σ} (unprofiled : Unprofiled start) (handle : Int)
    (calls : List Ms12Call) :
    let after := calls.foldl (fun plugin call => (call.run hal handle plugin).2) start
    (Unprofiled after ∧ after.store.defaultProperties = start.store.defaultProperties) ∧
      ∀ key, after.store.properties.find? key =
        (lastOf (Ms12Call.written key) calls).or (start.store.properties.find? key) := by
  intro after
  have each : ∀ key, (Unprofiled after ∧
        after.store.defaultProperties = start.store.defaultProperties) ∧
      after.store.properties.find? key =
        (lastOf (Ms12Call.written key) calls).or (start.store.properties.find? key) :=
    fun key => foldl_register
      (fun plugin : Plugin σ =>
        Unprofiled plugin ∧ plugin.store.defaultProperties = start.store.defaultProperties)
      (fun plugin => plugin.store.properties.find? key) (Ms12Call.written key)
      (fun plugin call _ kept => by
        obtain ⟨-, unprofiled', defaults, found⟩ := run_spec stores kept.1 handle call
        exact ⟨⟨unprofiled', defaults.trans kept.2⟩, found key⟩)
      ⟨unprofiled, rfl⟩
  exact ⟨(each "").1, fun key => (each key).2⟩

/-! ### The startup code on the HAL -/

include stores in
theorem held_initializeOnPorts {plugin : Plugin σ} {speaker : Int} {state : σ}
    (port : hal.dsGetAudioPort state .speaker 0 = .ok speaker) (call : DsMs12Call)
    (setting : Ms12Setting) :
    held (plugin.initializeOnPorts hal call).hal speaker setting =
      (call.about setting).or (held plugin.hal speaker setting) := by
  have speakerPort : ∀ state, hal.dsGetAudioPort state .speaker 0 = .ok speaker := fun other => by
    rw [stores.ports.fixed other state, port]
  unfold Plugin.initializeOnPorts
  simp only [List.foldl_cons, List.foldl_nil, speakerPort]
  cases hdmi : hal.dsGetAudioPort (hal.call plugin.hal speaker call).2 .hdmi 0 with
  | error error => simp only [stores.stores, if_true]
  | ok handle =>
      have different : speaker ≠ handle := by
        rintro rfl
        exact absurd (stores.ports.distinct _ _ _ _ (speakerPort _) hdmi) (by decide)
      simp only [stores.stores, if_true, if_neg different]

include stores in
/-- What the HAL has for the speaker behind the startup code. -/
theorem held_startup {plugin : Plugin σ} {speaker : Int} {state : σ}
    (port : hal.dsGetAudioPort state .speaker 0 = .ok speaker) (calls : List DsMs12Call)
    (setting : Ms12Setting) :
    held (calls.foldl (Plugin.initializeOnPorts hal) plugin).hal speaker setting =
      (lastOf (DsMs12Call.about setting) calls).or (held plugin.hal speaker setting) :=
  (foldl_register (fun _ => True)
    (fun plugin : Plugin σ => held plugin.hal speaker setting) (DsMs12Call.about setting)
    (fun _ call _ _ => ⟨trivial, held_initializeOnPorts stores port call setting⟩) trivial).2

end Laws

/-! ### What comes back -/

/-- What a restart makes of a setting whose property is read back. -/
def DsMs12Call.restored : DsMs12Call → DsMs12Call
  | .dsSetDRCMode mode => .dsSetDRCMode (if mode ≠ 0 then 1 else 0)
  | call => call

/-- The settings of a profile; their properties are not read back. -/
def profileSettings : List Ms12Setting := [.dialogEnhancement, .volumeLeveller, .surroundVirtualizer]

/-- How the startup code reads a setting that has one property. -/
structure PropertyReader where
  key : String
  fallback : String
  decode : String → DsMs12Call

def reader : Ms12Setting → Option PropertyReader
  | .audioCompression => some ⟨"audio.Compression", "0", fun value =>
      .dsSetAudioCompression (atoi value)⟩
  | .dialogEnhancement => some ⟨"audio.EnhancerLevel", "0", fun value =>
      .dsSetDialogEnhancement (atoi value)⟩
  | .dolbyVolumeMode => some ⟨"audio.DolbyVolumeMode", "FALSE", fun value =>
      .dsSetDolbyVolumeMode (value = "TRUE")⟩
  | .intelligentEqualizerMode => some ⟨"audio.IntelligentEQ", "0", fun value =>
      .dsSetIntelligentEqualizerMode (atoi value)⟩
  | .bassEnhancer => some ⟨"audio.BassBoost", "0", fun value => .dsSetBassEnhancer (atoi value)⟩
  | .surroundDecoder => some ⟨"audio.SurroundDecoderEnabled", "FALSE", fun value =>
      .dsEnableSurroundDecoder (value = "TRUE")⟩
  | .drcMode => some ⟨"audio.DRCMode", "Line", fun value =>
      .dsSetDRCMode (if value = "RF" then 1 else 0)⟩
  | .miSteering => some ⟨"audio.MISteering", "Disabled", fun value =>
      .dsSetMISteering (value = "Enabled")⟩
  | .graphicEqualizerMode => some ⟨"audio.GraphicEQ", "0", fun value =>
      .dsSetGraphicEqualizerMode (atoi value)⟩
  | .volumeLeveller => none
  | .surroundVirtualizer => none

theorem startup_reader {setting : Ms12Setting} {read : PropertyReader}
    (has : reader setting = some read) (store : HostPersistence) :
    lastOf (DsMs12Call.about setting) (startupCalls store) =
      some (read.decode (storedValue store read.key read.fallback)) := by
  by_cases tells : TellsVolumeLeveller store <;> cases setting <;> cases has <;>
    simp [lastOf, startupCalls, volumeLevellerCalls, tells, DsMs12Call.about, DsMs12Call.setting]

/-- No setter writes the property of another setting. -/
theorem key_not_mem_writtenKeys {setting other : Ms12Setting} {read : PropertyReader}
    (has : reader setting = some read) (different : other ≠ setting) :
    read.key ∉ writtenKeys other := by
  cases setting <;> cases has <;> cases other <;>
    first | exact absurd rfl different | exact of_decide_eq_true rfl

/-- The startup code decodes what the setters encode, unless the setting belongs to a
profile. -/
theorem decode_written {setting : Ms12Setting} {read : PropertyReader}
    (has : reader setting = some read) (plain : setting ∉ profileSettings) (call : Ms12Call) :
    (call.written read.key).map read.decode =
      (call.told.about setting).map DsMs12Call.restored := by
  by_cases mine : call.told.setting = setting
  · have number : ∀ level : Int32, atoi level.toInt.repr = level.toInt := fun level => by
      rw [← Int.toString_eq_repr]
      exact atoi_toString_int level.le_toInt level.toInt_lt
    subst mine
    cases call <;> simp [profileSettings, Ms12Call.told, DsMs12Call.setting] at plain <;>
      cases has <;>
      simp [Ms12Call.written, Ms12Call.bindings, lastOf, Plugin.binding, DsMs12Call.about,
        Ms12Call.told, DsMs12Call.setting, number, DsMs12Call.restored]
  · rw [written_eq_none (key_not_mem_writtenKeys has mine), DsMs12Call.about, if_neg mine]
    rfl

theorem startup_of_last {store before : HostPersistence} {calls : List Ms12Call}
    (stored : ∀ key, store.properties.find? key =
      (lastOf (Ms12Call.written key) calls).or (before.properties.find? key))
    {setting : Ms12Setting} (plain : setting ∉ profileSettings) {told : DsMs12Call}
    (last : lastOf (fun call : Ms12Call => call.told.about setting) calls = some told) :
    lastOf (DsMs12Call.about setting) (startupCalls store) = some told.restored := by
  cases has : reader setting with
  | none => cases setting <;> simp [profileSettings, reader] at plain has
  | some read =>
      have decoded : (lastOf (Ms12Call.written read.key) calls).map read.decode =
          some told.restored := by
        rw [← lastOf_map, lastOf_congr fun call _ => decode_written has plain call, lastOf_map,
          last, Option.map_some]
      obtain ⟨value, written, same⟩ := Option.map_eq_some_iff.mp decoded
      rw [startup_reader has, storedValue, stored, written, Option.some_or, Option.some_or,
        Option.getD_some, same]

theorem startup_volumeLeveller (store : HostPersistence) :
    lastOf (DsMs12Call.about .volumeLeveller) (startupCalls store) =
      if TellsVolumeLeveller store then
        some (.dsSetVolumeLeveller
          (atoi (storedPair store "audio.VolumeLeveller.mode" "audio.VolumeLeveller.level").1)
          (atoi (storedPair store "audio.VolumeLeveller.mode" "audio.VolumeLeveller.level").2))
      else none := by
  by_cases tells : TellsVolumeLeveller store <;>
    simp [lastOf, startupCalls, volumeLevellerCalls, tells, DsMs12Call.about, DsMs12Call.setting]

theorem startup_surroundVirtualizer (store : HostPersistence) :
    lastOf (DsMs12Call.about .surroundVirtualizer) (startupCalls store) =
      some (.dsSetSurroundVirtualizer
        (atoi (storedPair store "audio.SurroundVirtualizer.mode"
          "audio.SurroundVirtualizer.boost").1)
        (atoi (storedPair store "audio.SurroundVirtualizer.mode"
          "audio.SurroundVirtualizer.boost").2)) := by
  by_cases tells : TellsVolumeLeveller store <;>
    simp [lastOf, startupCalls, volumeLevellerCalls, tells, DsMs12Call.about, DsMs12Call.setting]

/-- The properties behind the settings of a profile at startup. -/
def unprofiledKeys : List String :=
  ["audio.EnhancerLevel", "audio.DolbyVolumeMode", "audio.VolumeLeveller.mode",
    "audio.VolumeLeveller.level", "audio.SurroundVirtualizer.mode",
    "audio.SurroundVirtualizer.boost"]

theorem unprofiledKeys_not_written {key : String} (unprofiled : key ∈ unprofiledKeys)
    (setting : Ms12Setting) : key ∉ writtenKeys setting := by
  have apart : ∀ key ∈ unprofiledKeys, key ∉ writtenKeys setting := by
    cases setting <;> decide
  exact apart key unprofiled

/-- No setter changes what the startup code finds for the settings of a profile. -/
theorem startup_of_profile {store before : HostPersistence}
    (same : ∀ key ∈ unprofiledKeys, store.properties.find? key = before.properties.find? key)
    (defaults : store.defaultProperties = before.defaultProperties) {setting : Ms12Setting}
    (profile : setting ∈ profileSettings) :
    lastOf (DsMs12Call.about setting) (startupCalls store) =
      lastOf (DsMs12Call.about setting) (startupCalls before) := by
  have value : ∀ key ∈ unprofiledKeys, ∀ fallback,
      storedValue store key fallback = storedValue before key fallback := by
    intro key member fallback
    rw [storedValue, storedValue, same key member, defaults]
  have bound : ∀ first ∈ unprofiledKeys, ∀ second ∈ unprofiledKeys,
      boundPair store.properties first second = boundPair before.properties first second := by
    intro first member second member'
    rw [boundPair, boundPair, same first member, same second member']
  have pair : ∀ first ∈ unprofiledKeys, ∀ second ∈ unprofiledKeys,
      storedPair store first second = storedPair before first second := by
    intro first member second member'
    rw [storedPair, storedPair, bound first member second member', defaults]
  have tells : TellsVolumeLeveller store ↔ TellsVolumeLeveller before := by
    rw [TellsVolumeLeveller, TellsVolumeLeveller, same _ (by decide),
      bound _ (by decide) _ (by decide)]
  simp only [profileSettings, List.mem_cons, List.not_mem_nil, or_false] at profile
  rcases profile with rfl | rfl | rfl
  · have has : reader .dialogEnhancement = some _ := rfl
    rw [startup_reader has, startup_reader has, value _ (by decide)]
  · simp only [startup_volumeLeveller, tells, pair _ (show "audio.VolumeLeveller.mode" ∈ _ by
      decide) _ (show "audio.VolumeLeveller.level" ∈ unprofiledKeys by decide)]
  · simp only [startup_surroundVirtualizer, pair _ (show "audio.SurroundVirtualizer.mode" ∈ _ by
      decide) _ (show "audio.SurroundVirtualizer.boost" ∈ unprofiledKeys by decide)]

/-! ### Restarts -/

section Restart

variable {σ : Type} (hal : Ms12Hal σ) (initializeProfile : Plugin σ → Plugin σ)

/-- A restart on the same store: everything but the store is `fresh`. -/
def restartMs12 (plugin fresh : Plugin σ) : Plugin σ :=
  { fresh with store := plugin.store, files := plugin.files }.audioConfigInitMs12 hal
    initializeProfile

variable {hal}

theorem restartMs12_of_unsupported (resolves : ∀ setting, hal.resolves setting = true)
    {plugin : Plugin σ} (ready : plugin.store.isInitialized = true)
    (unsupported : plugin.store.defaultProperties.find? "audio.MS12Profile.supported" = none ∨
      plugin.store.defaultProperties.find? "audio.MS12Profile.supported" = some "FALSE")
    (fresh : Plugin σ) :
    restartMs12 hal initializeProfile plugin fresh =
      (startupCalls plugin.store).foldl (Plugin.initializeOnPorts hal)
        { fresh with store := plugin.store, files := plugin.files } := by
  have init := Plugin.initializeIndividualMS12Settings_of_ready ready resolves
    (show Plugin.store { fresh with store := plugin.store, files := plugin.files } = _ from rfl)
  rw [← init]
  rcases unsupported with absent | off <;>
    simp [restartMs12, Plugin.audioConfigInitMs12, HostPersistence.getDefaultProperty,
      HostPersistence.ensureInitialized_of_ready ready, *]

/-- Each setting that was set has the value it was set to last. -/
def Ms12SettingsSurvive (held : σ → Int → Ms12Setting → Option DsMs12Call) (speaker : Int)
    (calls : List Ms12Call) (after : Plugin σ) : Prop :=
  ∀ setting told, lastOf (fun call : Ms12Call => call.told.about setting) calls = some told →
    held after.hal speaker setting = some told

theorem restored_eq_iff (call : DsMs12Call) :
    call.restored = call ↔ ∀ mode, call = .dsSetDRCMode mode → mode = 0 ∨ mode = 1 := by
  cases call with
  | dsSetDRCMode mode =>
      simp only [DsMs12Call.restored, DsMs12Call.dsSetDRCMode.injEq, forall_eq']
      split_ifs with zero <;> omega
  | _ => simp [DsMs12Call.restored]

theorem about_eq_some {setting : Ms12Setting} {call told : DsMs12Call}
    (found : call.about setting = some told) : told.setting = setting := by
  obtain ⟨mine, same⟩ := Option.ite_none_right_eq_some.mp found
  rw [← Option.some.inj same, mine]

section Run

variable {held : σ → Int → Ms12Setting → Option DsMs12Call} (stores : hal.Stores held)
  {start : Plugin σ} (unprofiled : Unprofiled start)
  (unsupported : start.store.defaultProperties.find? "audio.MS12Profile.supported" = none ∨
    start.store.defaultProperties.find? "audio.MS12Profile.supported" = some "FALSE")
  {speaker : Int} (port : hal.dsGetAudioPort start.hal .speaker 0 = .ok speaker)

include stores unprofiled unsupported port in
/-- What a run and a restart leave in the HAL: the settings of a profile are read from the store
as it was before the run. -/
theorem held_restartMs12 (calls : List Ms12Call) (fresh : Plugin σ) (setting : Ms12Setting) :
    let after := restartMs12 hal initializeProfile
      (calls.foldl (fun plugin call => (call.run hal speaker plugin).2) start) fresh
    (setting ∈ profileSettings → held after.hal speaker setting =
        (lastOf (DsMs12Call.about setting) (startupCalls start.store)).or
          (held fresh.hal speaker setting)) ∧
      (setting ∉ profileSettings → ∀ told,
        lastOf (fun call : Ms12Call => call.told.about setting) calls = some told →
          held after.hal speaker setting = some told.restored) := by
  obtain ⟨⟨ran, defaults⟩, stored⟩ := after_calls stores unprofiled speaker calls
  generalize calls.foldl (fun plugin call => (call.run hal speaker plugin).2) start = before
    at ran defaults stored ⊢
  rw [← defaults] at unsupported
  have unread : ∀ key ∈ unprofiledKeys,
      before.store.properties.find? key = start.store.properties.find? key := by
    intro key member
    rw [stored, lastOf_eq_none fun call _ =>
      written_unknown (unprofiledKeys_not_written member) call, Option.none_or]
  intro after
  have reached : held after.hal speaker setting =
      (lastOf (DsMs12Call.about setting) (startupCalls before.store)).or
        (held fresh.hal speaker setting) := by
    have init := restartMs12_of_unsupported initializeProfile stores.resolves ran.ready unsupported
      fresh
    exact (congrArg (fun plugin => held (Plugin.hal plugin) speaker setting) init).trans
      (held_startup stores port _ setting)
  refine ⟨fun profile => ?_, fun plain told last => ?_⟩
  · rw [reached, startup_of_profile unread defaults profile]
  · rw [reached, startup_of_last stored plain last, Option.some_or]

include stores unprofiled unsupported port in
/-- From any state in which no profile is stored, any run of the setters on the speaker and a
restart. -/
theorem ms12_settings_survive_restart_iff (calls : List Ms12Call) (fresh : Plugin σ) :
    Ms12SettingsSurvive held speaker calls
        (restartMs12 hal initializeProfile
          (calls.foldl (fun plugin call => (call.run hal speaker plugin).2) start) fresh) ↔
      (∀ drcMode, lastOf (fun call : Ms12Call => call.told.about .drcMode) calls =
          some (.dsSetDRCMode drcMode) → drcMode = 0 ∨ drcMode = 1) ∧
        ∀ setting ∈ profileSettings, ∀ told,
          lastOf (fun call : Ms12Call => call.told.about setting) calls = some told →
            (lastOf (DsMs12Call.about setting) (startupCalls start.store)).or
              (held fresh.hal speaker setting) = some told := by
  have reached := held_restartMs12 initializeProfile stores unprofiled unsupported port calls fresh
  constructor
  · intro survive
    refine ⟨fun drcMode last => ?_, fun setting profile told last => ?_⟩
    · have back := survive _ _ last
      rw [(reached .drcMode).2 (by decide) _ last, Option.some.injEq] at back
      exact (restored_eq_iff _).mp back drcMode rfl
    · rw [← (reached setting).1 profile]
      exact survive setting told last
  · rintro ⟨drc, profiles⟩ setting told last
    by_cases profile : setting ∈ profileSettings
    · rw [(reached setting).1 profile]
      exact profiles setting profile told last
    · have same : told.restored = told := by
        apply (restored_eq_iff told).mpr
        rintro mode rfl
        obtain ⟨call, -, about⟩ := exists_of_lastOf last
        obtain rfl := about_eq_some about
        exact drc mode last
      rw [(reached setting).2 profile told last, same]

end Run
end Restart

namespace Ms12Memory

theorem unprofiled : Unprofiled start := ⟨⟨rfl, rfl⟩, rfl⟩

end Ms12Memory

theorem ms12_settings_survive_restart_iff_bass :
    Ms12SettingsSurvive (fun memory => memory) 1 [.setAudioBassEnhancer 40, .setAudioDRCMode 1]
        (restartMs12 Ms12Memory.hal id
          ([.setAudioBassEnhancer 40, .setAudioDRCMode 1].foldl
            (fun plugin call => (Ms12Call.run Ms12Memory.hal 1 plugin call).2) Ms12Memory.start)
          Ms12Memory.start) ↔
      (∀ drcMode, lastOf (fun call : Ms12Call => call.told.about .drcMode)
            [.setAudioBassEnhancer 40, .setAudioDRCMode 1] =
          some (.dsSetDRCMode drcMode) → drcMode = 0 ∨ drcMode = 1) ∧
        ∀ setting ∈ profileSettings, ∀ told,
          lastOf (fun call : Ms12Call => call.told.about setting)
              [.setAudioBassEnhancer 40, .setAudioDRCMode 1] = some told →
            (lastOf (DsMs12Call.about setting) (startupCalls Ms12Memory.start.store)).or none =
              some told :=
  ms12_settings_survive_restart_iff id Ms12Memory.stores Ms12Memory.unprofiled (.inl rfl) rfl _ _

/-- The dialog enhancement set without a profile is gone after a restart. -/
theorem not_ms12_settings_survive_restart :
    ¬∀ (start fresh : Plugin (Int → Ms12Setting → Option DsMs12Call)) (calls : List Ms12Call),
      Unprofiled start →
      start.store.defaultProperties.find? "audio.MS12Profile.supported" = none →
      Ms12SettingsSurvive (fun memory => memory) 1 calls
        (restartMs12 Ms12Memory.hal id
          (calls.foldl (fun plugin call => (Ms12Call.run Ms12Memory.hal 1 plugin call).2) start)
          fresh) := by
  intro survive
  have promised := survive Ms12Memory.start Ms12Memory.start [.setAudioDialogEnhancement 5]
    Ms12Memory.unprofiled rfl .dialogEnhancement (.dsSetDialogEnhancement 5) rfl
  have restored := (held_restartMs12 id Ms12Memory.stores Ms12Memory.unprofiled (.inl rfl) rfl
    [.setAudioDialogEnhancement 5] Ms12Memory.start .dialogEnhancement).1 (by decide)
  rw [startup_reader (show reader .dialogEnhancement = some _ from rfl)] at restored
  have zero : (some (DsMs12Call.dsSetDialogEnhancement 0)) = some (.dsSetDialogEnhancement 5) :=
    restored.symm.trans promised
  exact absurd zero (by decide)

end DeviceSettings.Audio
