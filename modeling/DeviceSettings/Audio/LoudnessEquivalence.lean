import DeviceSettings.Audio.PortSettingsRestart
import DeviceSettings.Audio.Reactivation
import DeviceSettings.Std.LastWrite
import DeviceSettings.Std.Machine

/-!
# Loudness equivalence

`EnableAudioLEConfig` compares with one flag for all ports, and writes the flag and the property
before it asks the HAL. Its build persists audio settings.
-/

namespace DeviceSettings.Audio

open DeviceSettings.Std
open DeviceSettings.Persistence

variable {σ : Type}

/-- The text of an LE state. -/
def leText (enable : Bool) : String := if enable then "TRUE" else "FALSE"

namespace AudioProcess

variable (hal : ActivationHal σ) (build : AudioBuild)

/-- `EnableAudioLEConfig(handle, enable)`: the flag and the property are written first, and a call
that asks for what the flag has is not passed on. -/
def enableAudioLEConfig (process : AudioProcess σ) (handle : Int) (enable : Bool) :
    Except CoreError Unit × AudioProcess σ :=
  if hal.resolvesConfig .dsEnableLEConfig = false then (.error .general, process)
  else if enable ≠ process.leEnabled then
    let process := { process with leEnabled := enable }
    match process.volume.plugin.persistProperty "audio.LEEnable" (leText enable) with
    | (.error error, plugin) => (.error error, { process with volume.plugin := plugin })
    | (.ok _, plugin) =>
      match hal.dsEnableLEConfig plugin.hal handle enable with
      | (.error _, state) =>
        (.error .general, { process with volume.plugin := { plugin with hal := state } })
      | (.ok _, state) => (.ok (), { process with volume.plugin := { plugin with hal := state } })
  else (.ok (), process)

/-- What the section of `audioConfigInit` passes to `dsEnableLEConfig`, where it calls it. -/
def appliedLE (process : AudioProcess σ) : Option Bool :=
  match hal.dsGetAudioPort process.volume.plugin.hal .hdmi 0 with
  | .error _ => none
  | .ok _ =>
    if hal.resolvesConfig .dsEnableLEConfig then
      some ((process.volume.plugin.readLEEnable build.leDefaultDisabled).1 = "TRUE")
    else none

/-- A new process on the store of `process`, before its `audioConfigInit`. -/
def reopened (process fresh : AudioProcess σ) : AudioProcess σ :=
  { fresh with volume := process.volume.reopened fresh.volume }

/-- A restart on the same store. -/
def restart (process fresh : AudioProcess σ) : AudioProcess σ :=
  (process.reopened fresh).audioConfigInit hal build

/-- The section does what `appliedLE` says. -/
theorem initializeLE_of_applied {process : AudioProcess σ} {enable : Bool}
    (applied : process.appliedLE hal build = some enable) :
    hal.resolvesConfig .dsEnableLEConfig = true ∧ ∃ handle,
      hal.dsGetAudioPort process.volume.plugin.hal .hdmi 0 = .ok handle ∧
      (process.initializeLE hal build).leEnabled = enable ∧
      (process.initializeLE hal build).volume.plugin.hal =
        (hal.dsEnableLEConfig process.volume.plugin.hal handle enable).2 := by
  unfold appliedLE at applied
  cases port : hal.dsGetAudioPort process.volume.plugin.hal .hdmi 0 with
  | error error =>
      rw [port] at applied
      exact absurd applied (by simp)
  | ok handle =>
      rw [port] at applied
      dsimp only at applied
      split_ifs at applied with resolved
      have value := Option.some.inj applied
      have same : (process.volume.plugin.readLEEnable build.leDefaultDisabled).2.hal =
          process.volume.plugin.hal := by
        unfold Plugin.readLEEnable
        rcases process.volume.plugin.store.getProperty process.volume.plugin.files
          "audio.LEEnable" with ⟨_ | _, store⟩
        · dsimp only
          rw [Plugin.persistProperty_hal]
        · rfl
      unfold initializeLE
      rw [port]
      dsimp only
      rw [if_pos resolved]
      refine ⟨resolved, handle, rfl, value, ?_⟩
      dsimp only
      rw [value, same]

end AudioProcess

/-! ### What the later sections of `audioConfigInit` leave alone -/

/-- The step changes neither the flag nor what the store has for it. -/
def KeepsLE (step : AudioProcess σ → AudioProcess σ) : Prop :=
  ∀ process, process.volume.plugin.store.isInitialized = true →
    (step process).leEnabled = process.leEnabled ∧
      (step process).volume.plugin.store.isInitialized = true ∧
      (step process).volume.plugin.store.properties.find? "audio.LEEnable" =
        process.volume.plugin.store.properties.find? "audio.LEEnable"

theorem KeepsLE.comp {first second : AudioProcess σ → AudioProcess σ} (left : KeepsLE first)
    (right : KeepsLE second) : KeepsLE fun process => second (first process) := by
  intro process ready
  obtain ⟨flag, loaded, found⟩ := left process ready
  obtain ⟨flag', loaded', found'⟩ := right (first process) loaded
  exact ⟨flag'.trans flag, loaded', found'.trans found⟩

/-- The body reads the store and does not write it. -/
def KeepsStore (body : VolumePlugin σ → VolumePlugin σ) : Prop :=
  ∀ volume, volume.plugin.store.isInitialized = true →
    (body volume).plugin.store = volume.plugin.store

theorem KeepsStore.keepsLE {body : VolumePlugin σ → VolumePlugin σ} (keeps : KeepsStore body) :
    KeepsLE fun process => { process with volume := body process.volume } := by
  intro process ready
  have same := keeps process.volume ready
  refine ⟨rfl, ?_, ?_⟩
  · dsimp only
    rw [same]
    exact ready
  · dsimp only
    rw [same]

theorem KeepsStore.once (hal : ActivationHal σ) (func : StaticFunc)
    {body : VolumePlugin σ → VolumePlugin σ} (keeps : KeepsStore body) :
    KeepsLE fun process => process.initializeOnce hal func body := by
  intro process ready
  dsimp only [AudioProcess.initializeOnce]
  split_ifs
  · exact ⟨rfl, ready, rfl⟩
  · exact keeps.keepsLE process ready
  · exact ⟨rfl, ready, rfl⟩

theorem keepsStore_ports {hal : PortSettingsHal σ} {key : DsAudioPortType → Option String}
    (named : ∀ portType own, key portType = some own → own ≠ "")
    (apply : DsAudioPortType → Int → String → VolumePlugin σ → VolumePlugin σ)
    (each : ∀ portType handle text (state : VolumePlugin σ),
      (apply portType handle text state).plugin.store = state.plugin.store)
    (fallback : String) (ports : List DsAudioPortType) :
    KeepsStore fun volume =>
      ports.foldl (VolumePlugin.initializePort hal key fallback apply) volume := by
  intro volume ready
  refine foldl_initializePort_keeps named
    (fun state => state.plugin.store = volume.plugin.store) (fun state same => ?_)
    (fun portType handle text state same => (each portType handle text state).trans same)
    fallback ports rfl
  rw [same]
  exact ready

theorem keepsStore_config {key : String} (fallback : String)
    (set : σ → Int → String → Except DsError Unit × σ) :
    KeepsStore (VolumePlugin.initializeConfig key fallback set) := by
  intro volume ready
  unfold VolumePlugin.initializeConfig
  dsimp only
  rw [readProperty_snd_of_ready ready]

theorem keepsLE_initializeGain (hal : ActivationHal σ) :
    KeepsLE (AudioProcess.initializeGain hal) := by
  have gains : KeepsStore fun volume : VolumePlugin σ =>
      volume.initializePorts hal.toPortSettingsHal .dsSetAudioGain audioGainKey "0"
        (VolumePlugin.applyGain hal.toPortSettingsHal) gainPorts := by
    intro volume ready
    unfold VolumePlugin.initializePorts
    dsimp only
    split_ifs
    · exact keepsStore_ports audioGainKey_ne (VolumePlugin.applyGain hal.toPortSettingsHal)
        (fun _ _ _ _ => rfl) "0" gainPorts volume ready
    · rfl
  exact gains.keepsLE

/-- A section that is quiet, whatever is watched of the HAL, does not write the store. -/
theorem keepsStore_of_alwaysQuiet {held : σ → HalAudioSettings} {step : Plugin σ → Plugin σ}
    (quiet : AlwaysQuiet held step) :
    KeepsStore fun volume : VolumePlugin σ => { volume with plugin := step volume.plugin } :=
  fun volume ready => (quiet volume.plugin ready).store

/-- Persisting another property. -/
theorem find?_persistProperty (plugin : Plugin σ) (ready : plugin.store.isInitialized = true)
    {key wanted : String} (other : key ≠ wanted) (value : String) :
    (plugin.persistProperty key value).2.store.isInitialized = true ∧
      (plugin.persistProperty key value).2.store.properties.find? wanted =
        plugin.store.properties.find? wanted := by
  have persisted := persistProperty_snd plugin key value
  let loaded : LoadedStore := ⟨plugin.store, plugin.files, ready⟩
  refine ⟨?_, ?_⟩
  · rw [persisted]
    exact loaded.ready_persistHostProperty key value
  · rw [persisted]
    exact loaded.find?_persist_of_ne other value

theorem find?_tellProfile (hal : Ms12ProfileHal σ) {plugin : Plugin σ}
    (ready : plugin.store.isInitialized = true) (handle : Int) (name : String) :
    (plugin.tellProfile hal handle name).2.store.isInitialized = true ∧
      (plugin.tellProfile hal handle name).2.store.properties.find? "audio.LEEnable" =
        plugin.store.properties.find? "audio.LEEnable" := by
  unfold Plugin.tellProfile
  rcases hal.dsSetMS12AudioProfile plugin.hal handle name with ⟨_ | _, state⟩
  · exact ⟨ready, rfl⟩
  · have persisted := find?_persistProperty { plugin with hal := state } ready
      (show "audio.MS12Profile" ≠ "audio.LEEnable" by decide) name
    dsimp only
    cases told : Plugin.persistProperty { plugin with hal := state } "audio.MS12Profile" name with
    | mk answer after =>
        rw [told] at persisted
        cases answer <;> exact persisted

/-- Section 9 persists the profile and no other property. -/
theorem keepsLE_initializeProfile (hal : ActivationHal σ) :
    KeepsLE fun process => (process.initializeProfile hal).2 := by
  intro process ready
  dsimp only [AudioProcess.initializeProfile]
  split_ifs
  · exact ⟨rfl, ready, rfl⟩
  · rw [readProperty_snd_of_ready ready]
    cases hal.dsGetAudioPort process.volume.plugin.hal .speaker 0 with
    | error error => exact ⟨rfl, ready, rfl⟩
    | ok handle => exact ⟨rfl, find?_tellProfile _ ready handle _⟩
  · exact ⟨rfl, ready, rfl⟩

theorem keepsLE_initializeSupportedProfile (hal : ActivationHal σ) :
    KeepsLE (AudioProcess.initializeSupportedProfile hal) := by
  -- Nothing is watched of the HAL.
  have quiet : AlwaysQuiet (fun _ => RememberedSettings.unset)
      (Plugin.initializeMS12ProfileOverrides hal.toMs12ProfileHal.toMs12Hal) :=
    alwaysQuiet_initializeMS12ProfileOverrides fun _ _ _ => rfl
  intro process ready
  have told := keepsLE_initializeProfile hal process ready
  have same := keepsStore_of_alwaysQuiet quiet (process.initializeProfile hal).2.volume told.2.1
  unfold AudioProcess.initializeSupportedProfile
  dsimp only at told same ⊢
  cases (process.initializeProfile hal).1 with
  | none => exact told
  | some ms12Profile =>
      dsimp only
      split_ifs
      · dsimp only
        rw [same]
        exact told
      · exact told

theorem keepsLE_initializeMs12 (hal : ActivationHal σ) :
    KeepsLE (AudioProcess.initializeMs12 hal) := by
  have quiet : AlwaysQuiet (fun _ => RememberedSettings.unset)
      (Plugin.initializeIndividualMS12Settings hal.toMs12ProfileHal.toMs12Hal) :=
    alwaysQuiet_initializeIndividualMS12Settings fun _ _ _ => rfl
  have settings := keepsStore_of_alwaysQuiet quiet
  intro process ready
  simp only [AudioProcess.initializeMs12]
  rw [getDefaultProperty_of_ready ready]
  cases (process.volume.plugin.store.getDefaultProperty process.volume.plugin.files
      "audio.MS12Profile.supported").1 with
  | error error => exact settings.keepsLE process ready
  | ok value =>
      dsimp only
      split_ifs
      · exact keepsLE_initializeSupportedProfile hal process ready
      · exact settings.keepsLE process ready
      · exact ⟨rfl, ready, rfl⟩

/-- Behind the section on loudness equivalence `audioConfigInit` leaves it alone. -/
theorem keepsLE_behindLE (hal : ActivationHal σ) (build : AudioBuild) {process : AudioProcess σ}
    (ready : (process.initializeLE hal build).volume.plugin.store.isInitialized = true) :
    (process.audioConfigInit hal build).leEnabled =
        (process.initializeLE hal build).leEnabled ∧
      (process.audioConfigInit hal build).volume.plugin.store.isInitialized = true ∧
      (process.audioConfigInit hal build).volume.plugin.store.properties.find? "audio.LEEnable" =
        (process.initializeLE hal build).volume.plugin.store.properties.find?
          "audio.LEEnable" := by
  have level : KeepsLE (AudioProcess.initializeLevel hal) :=
    (keepsStore_ports audioLevelKey_ne (VolumePlugin.applyLevel hal.toPortSettingsHal)
      (fun _ _ _ _ => rfl) "40" levelPorts).once hal _
  have delay : KeepsLE (AudioProcess.initializeDelay hal) :=
    (keepsStore_ports audioDelayKey_ne (VolumePlugin.applyDelay hal.toPortSettingsHal)
      (fun _ _ _ _ => rfl) "0" delayPorts).once hal _
  have primary : KeepsLE (AudioProcess.initializePrimaryLanguage hal) :=
    (keepsStore_config "eng" _).once hal _
  have secondary : KeepsLE (AudioProcess.initializeSecondaryLanguage hal) :=
    (keepsStore_config "eng" _).once hal _
  have fader : KeepsLE (AudioProcess.initializeFaderControl hal) :=
    (keepsStore_config "0" _).once hal _
  have mixing : KeepsLE (AudioProcess.initializeAssociatedAudioMixing hal) :=
    (keepsStore_config "Disabled" _).once hal _
  have sections := (((((((keepsLE_initializeGain hal).comp level).comp delay).comp primary).comp
    secondary).comp fader).comp mixing).comp (keepsLE_initializeMs12 hal)
  exact sections (process.initializeLE hal build) ready

/-! ### The flag and the store -/

/-- The store has the flag. -/
def MirrorsLE (process : AudioProcess σ) : Prop :=
  ∃ text, process.volume.plugin.store.properties.find? "audio.LEEnable" = some text ∧
    process.leEnabled = decide (text = "TRUE")

theorem leText_eq_iff (enable : Bool) : leText enable = "TRUE" ↔ enable = true := by
  cases enable <;> decide

theorem leText_ne (enable : Bool) : leText enable ≠ "" := by
  cases enable <;> decide

section Requests

variable {hal : ActivationHal σ} {build : AudioBuild}

/-- Where the section runs, the store has its flag. -/
theorem mirrorsLE_initializeLE (hal : ActivationHal σ) (build : AudioBuild)
    {process : AudioProcess σ}
    (ready : process.volume.plugin.store.isInitialized = true) :
    (process.initializeLE hal build).volume.plugin.store.isInitialized = true ∧
      ((process.appliedLE hal build).isSome → MirrorsLE (process.initializeLE hal build)) := by
  unfold AudioProcess.appliedLE AudioProcess.initializeLE
  cases hal.dsGetAudioPort process.volume.plugin.hal .hdmi 0 with
  | error error => exact ⟨ready, fun none => absurd none (by simp)⟩
  | ok handle =>
      dsimp only
      split_ifs with resolved
      · rw [readLEEnable_eq build process.volume.plugin ready]
        dsimp only
        refine ⟨LoadedStore.ready _, fun _ => ?_⟩
        refine ⟨(process.volume.plugin.store.properties.find? "audio.LEEnable").getD
          build.leDefault, ?_, rfl⟩
        set loaded : LoadedStore :=
          ⟨process.volume.plugin.store, process.volume.plugin.files, ready⟩ with loadedEq
        have found : loaded.find? "audio.LEEnable" =
          process.volume.plugin.store.properties.find? "audio.LEEnable" := rfl
        rw [← found]
        dsimp only
        cases stored : loaded.find? "audio.LEEnable" with
        | some text =>
            rw [if_neg (by simp)]
            exact stored
        | none =>
            rw [if_pos rfl]
            have named : build.leDefault ≠ "" := by
              unfold AudioBuild.leDefault
              split_ifs <;> decide
            exact (loaded.find?_persist ⟨by decide, named⟩ _).trans (if_pos rfl)
      · exact ⟨ready, fun none => absurd none (by simp)⟩

/-- A restart applies the flag that the store has. -/
theorem appliedLE_reopened {process fresh : AudioProcess σ} {applied : Bool}
    (ready : process.volume.plugin.store.isInitialized = true) (mirrors : MirrorsLE process)
    (found : (process.reopened fresh).appliedLE hal build = some applied) :
    applied = process.leEnabled := by
  obtain ⟨text, stored, flag⟩ := mirrors
  have same : (process.reopened fresh).volume.plugin.store = process.volume.plugin.store :=
    HostPersistence.ensureInitialized_of_ready ready _
  have loaded : (process.reopened fresh).volume.plugin.store.isInitialized = true := by
    rw [same]
    exact ready
  have read : ((process.reopened fresh).volume.plugin.readLEEnable
      build.leDefaultDisabled).1 = text := by
    have text : (process.reopened fresh).volume.plugin.store.properties.find?
        "audio.LEEnable" = some text := by
      rw [same]
      exact stored
    refine (congrArg Prod.fst (readLEEnable_eq build _ loaded)).trans ?_
    dsimp only
    rw [text, Option.getD_some]
  unfold AudioProcess.appliedLE at found
  split at found
  · exact absurd found (by simp)
  · split_ifs at found with resolved
    rw [read, Option.some.injEq] at found
    rw [flag, found]

/-- The HAL keeps an LE state for each handle and changes it only when `dsEnableLEConfig`
succeeds; its ports are fixed. -/
structure ActivationHal.KeepsLEState (hal : ActivationHal σ) (le : σ → Int → Bool) : Prop where
  fixed : ∀ state other, hal.dsGetAudioPort state = hal.dsGetAudioPort other
  stores : ∀ state handle enable, (hal.dsEnableLEConfig state handle enable).1 = .ok () →
    le (hal.dsEnableLEConfig state handle enable).2 = Function.update (le state) handle enable
  keeps : ∀ state handle enable error,
    (hal.dsEnableLEConfig state handle enable).1 = .error error →
      le (hal.dsEnableLEConfig state handle enable).2 = le state

theorem enableAudioLEConfig_of_same (resolved : hal.resolvesConfig .dsEnableLEConfig = true)
    {process : AudioProcess σ} {enable : Bool} (same : enable = process.leEnabled)
    (handle : Int) : process.enableAudioLEConfig hal handle enable = (.ok (), process) := by
  unfold AudioProcess.enableAudioLEConfig
  rw [if_neg (by simp [resolved]), if_neg (not_not.mpr same)]

/-- A call that changes the flag: the HAL is called behind the flag and the property. -/
theorem enableAudioLEConfig_of_ne (resolved : hal.resolvesConfig .dsEnableLEConfig = true)
    {process : AudioProcess σ} (ready : process.volume.plugin.store.isInitialized = true)
    {enable : Bool} (changes : enable ≠ process.leEnabled) (handle : Int) :
    let called := process.enableAudioLEConfig hal handle enable
    let answer := hal.dsEnableLEConfig process.volume.plugin.hal handle enable
    (called.1 = .ok () ↔ answer.1 = .ok ()) ∧ called.2.leEnabled = enable ∧
      called.2.volume.plugin.hal = answer.2 ∧
      called.2.volume.plugin.store.isInitialized = true ∧
      called.2.volume.plugin.store.properties.find? "audio.LEEnable" = some (leText enable) := by
  intro called answer
  have accepted : "audio.LEEnable" ≠ "" ∧ leText enable ≠ "" := ⟨by decide, leText_ne enable⟩
  have persists := (HostPersistence.persistHostProperty_ok_iff process.volume.plugin.store
    process.volume.plugin.files "audio.LEEnable" (leText enable)).mpr accepted
  have stored := HostPersistence.persistHostProperty_store ready process.volume.plugin.files
    accepted
  have written : ∃ files, process.volume.plugin.persistProperty "audio.LEEnable" (leText enable) =
      (.ok (), { process.volume.plugin with
        store := { process.volume.plugin.store with
          properties :=
            process.volume.plugin.store.properties.set "audio.LEEnable" (leText enable) }
        files := files }) := by
    unfold Plugin.persistProperty
    cases persisted : process.volume.plugin.store.persistHostProperty process.volume.plugin.files
      "audio.LEEnable" (leText enable) with
    | mk outcome rest =>
        rw [persisted] at persists stored
        dsimp only at persists stored
        rw [persists]
        exact ⟨rest.2, by rw [← stored]⟩
  obtain ⟨files, written⟩ := written
  have found : (process.volume.plugin.store.properties.set "audio.LEEnable"
      (leText enable)).find? "audio.LEEnable" = some (leText enable) := by
    rw [OrderedMap.find?_set, if_pos rfl]
  simp only [called, answer, AudioProcess.enableAudioLEConfig]
  rw [if_neg (by simp [resolved]), if_pos changes, written]
  dsimp only
  rcases told : hal.dsEnableLEConfig process.volume.plugin.hal handle enable with
    ⟨error | done, state⟩
  · exact ⟨by simp, rfl, rfl, ready, found⟩
  · exact ⟨by simp, rfl, rfl, ready, found⟩

/-! ### Runs of requests -/

/-- The arguments of `EnableAudioLEConfig`. -/
structure LERequest where
  handle : Int
  enable : Bool
  deriving DecidableEq

/-- A process that serves requests and shows its answers. -/
def leMachine (hal : ActivationHal σ) :
    Machine (AudioProcess σ) LERequest (Except CoreError Unit) where
  step process request :=
    let called := process.enableAudioLEConfig hal request.handle request.enable
    some (called.2, [called.1])

/-- One request with its answer. -/
def served (hal : ActivationHal σ) (process : AudioProcess σ) (request : LERequest) :
    Occurrence (AudioProcess σ) LERequest (Except CoreError Unit) where
  before := process
  action := request
  effects := [(process.enableAudioLEConfig hal request.handle request.enable).1]
  after := (process.enableAudioLEConfig hal request.handle request.enable).2

/-- The steps of a run are requests with their answers. -/
theorem exists_served {hal : ActivationHal σ}
    {occurrence : Occurrence (AudioProcess σ) LERequest (Except CoreError Unit)}
    (taken : (leMachine hal).step occurrence.before occurrence.action =
      some (occurrence.after, occurrence.effects)) :
    ∃ process request, occurrence = served hal process request := by
  obtain ⟨before, request, effects, after⟩ := occurrence
  obtain ⟨same, told⟩ := Prod.mk.inj (Option.some.inj taken)
  dsimp only at same told
  subst same told
  exact ⟨before, request, rfl⟩

/-- The state that was asked for, where the answer is `ERROR_NONE`. -/
def granted (occurrence : Occurrence (AudioProcess σ) LERequest (Except CoreError Unit)) :
    Option Bool :=
  match occurrence.effects with
  | [.ok ()] => some occurrence.action.enable
  | _ => none

/-- What was granted is in effect, and what was granted last is what a restart applies. -/
structure GrantsHold (hal : ActivationHal σ) (build : AudioBuild) (le : σ → Int → Bool)
    (trace : List (Occurrence (AudioProcess σ) LERequest (Except CoreError Unit)))
    (process : AudioProcess σ) : Prop where
  inEffect : ∀ occurrence ∈ trace, ∀ enable, granted occurrence = some enable →
    le occurrence.after.volume.plugin.hal occurrence.action.handle = enable
  restarts : ∀ fresh applied, (process.reopened fresh).appliedLE hal build = some applied →
    ∀ enable, lastOf granted trace = some enable → applied = enable

/-- What a step must find. A request for what the flag has is on a handle that the HAL has in this
state; and where the HAL has the HDMI port, no call of the HAL fails behind a request that was
granted. -/
structure LEStepFits (hal : ActivationHal σ) (le : σ → Int → Bool)
    (earlier : List (Occurrence (AudioProcess σ) LERequest (Except CoreError Unit)))
    (process : AudioProcess σ) (request : LERequest) : Prop where
  filtered : request.enable = process.leEnabled →
    le process.volume.plugin.hal request.handle = request.enable
  answered : ∀ port, hal.dsGetAudioPort process.volume.plugin.hal .hdmi 0 = .ok port →
    (lastOf granted earlier).isSome → request.enable ≠ process.leEnabled →
      (hal.dsEnableLEConfig process.volume.plugin.hal request.handle request.enable).1 = .ok ()

/-- The store is loaded, and where `audioConfigInit` has set the state it has the flag. -/
structure ServesLE (hal : ActivationHal σ) (process : AudioProcess σ) : Prop where
  ready : process.volume.plugin.store.isInitialized = true
  mirrors : hal.resolvesConfig .dsEnableLEConfig = true →
    ∀ port, hal.dsGetAudioPort process.volume.plugin.hal .hdmi 0 = .ok port → MirrorsLE process

theorem enableAudioLEConfig_of_unresolved
    (unresolved : ¬hal.resolvesConfig .dsEnableLEConfig = true) (process : AudioProcess σ)
    (handle : Int) (enable : Bool) :
    process.enableAudioLEConfig hal handle enable = (.error .general, process) := by
  unfold AudioProcess.enableAudioLEConfig
  rw [if_pos (by simpa using unresolved)]

section Contract

variable {le : σ → Int → Bool} (keeps : hal.KeepsLEState le)

include keeps in
theorem servesLE_restart (process fresh : AudioProcess σ) :
    ServesLE hal (process.restart hal build fresh) := by
  have ready : (process.reopened fresh).volume.plugin.store.isInitialized = true :=
    (up_reopened process.volume fresh.volume).ready
  obtain ⟨loaded, mirrors⟩ := mirrorsLE_initializeLE hal build ready
  obtain ⟨flag, ready', found⟩ := keepsLE_behindLE hal build loaded
  refine ⟨ready', fun resolved port there => ?_⟩
  have applied : ((process.reopened fresh).appliedLE hal build).isSome := by
    unfold AudioProcess.appliedLE
    rw [keeps.fixed _ (process.restart hal build fresh).volume.plugin.hal, there]
    simp [resolved]
  obtain ⟨text, stored, same⟩ := mirrors applied
  exact ⟨text, found.trans stored, flag.trans same⟩

theorem servesLE_enableAudioLEConfig {process : AudioProcess σ} (serves : ServesLE hal process)
    (handle : Int) (enable : Bool) :
    ServesLE hal (process.enableAudioLEConfig hal handle enable).2 := by
  by_cases resolved : hal.resolvesConfig .dsEnableLEConfig = true
  · by_cases same : enable = process.leEnabled
    · rw [enableAudioLEConfig_of_same resolved same]
      exact serves
    · obtain ⟨-, flag, -, ready, found⟩ :=
        enableAudioLEConfig_of_ne resolved serves.ready same handle
      refine ⟨ready, fun _ _ _ => ⟨leText enable, found, flag.trans ?_⟩⟩
      rw [Bool.eq_iff_iff, decide_eq_true_iff, leText_eq_iff]
  · rw [enableAudioLEConfig_of_unresolved resolved]
    exact serves

include keeps in
theorem servesLE_run {process fresh state : AudioProcess σ}
    {trace : List (Occurrence (AudioProcess σ) LERequest (Except CoreError Unit))}
    (run : (leMachine hal).Run (process.restart hal build fresh) trace state) :
    ServesLE hal state := by
  refine run.invariant (servesLE_restart keeps process fresh) fun before request after effects
    serves taken => ?_
  obtain ⟨rfl, rfl⟩ := Prod.mk.inj (Option.some.inj taken)
  exact servesLE_enableAudioLEConfig serves _ _

/-- Where the section runs, a restart applies the flag. -/
theorem appliedLE_of_serves (build : AudioBuild) {process fresh : AudioProcess σ}
    (serves : ServesLE hal process) (resolved : hal.resolvesConfig .dsEnableLEConfig = true)
    {port : Int} (there : hal.dsGetAudioPort process.volume.plugin.hal .hdmi 0 = .ok port)
    (same : hal.dsGetAudioPort fresh.volume.plugin.hal .hdmi 0 = .ok port) :
    (process.reopened fresh).appliedLE hal build = some process.leEnabled := by
  have applies : ((process.reopened fresh).appliedLE hal build).isSome := by
    unfold AudioProcess.appliedLE
    rw [show hal.dsGetAudioPort (process.reopened fresh).volume.plugin.hal .hdmi 0 = .ok port from
      same]
    simp [resolved]
  obtain ⟨applied, found⟩ := Option.isSome_iff_exists.mp applies
  rw [found, appliedLE_reopened serves.ready (serves.mirrors resolved port there) found]

include keeps in
/-- A step that finds what it must find: what it grants is in effect. -/
theorem inEffect_of_fits {process : AudioProcess σ} (serves : ServesLE hal process)
    (resolved : hal.resolvesConfig .dsEnableLEConfig = true) {request : LERequest}
    (filtered : request.enable = process.leEnabled →
      le process.volume.plugin.hal request.handle = request.enable)
    (answer : (process.enableAudioLEConfig hal request.handle request.enable).1 = .ok ()) :
    le (process.enableAudioLEConfig hal request.handle request.enable).2.volume.plugin.hal
      request.handle = request.enable := by
  by_cases same : request.enable = process.leEnabled
  · rw [enableAudioLEConfig_of_same resolved same]
    exact filtered same
  · obtain ⟨answers, -, told, -, -⟩ :=
      enableAudioLEConfig_of_ne resolved serves.ready same request.handle
    rw [told, keeps.stores _ _ _ (answers.mp answer), Function.update_self]

/-- The flag behind a request. -/
theorem leEnabled_enableAudioLEConfig {process : AudioProcess σ} (serves : ServesLE hal process)
    (resolved : hal.resolvesConfig .dsEnableLEConfig = true) (handle : Int) (enable : Bool) :
    (process.enableAudioLEConfig hal handle enable).2.leEnabled = enable := by
  by_cases same : enable = process.leEnabled
  · rw [enableAudioLEConfig_of_same resolved same]
    exact same.symm
  · exact (enableAudioLEConfig_of_ne resolved serves.ready same handle).2.1

theorem granted_of_ok {process : AudioProcess σ} {request : LERequest}
    (ok : (process.enableAudioLEConfig hal request.handle request.enable).1 = .ok ()) :
    granted (served hal process request) = some request.enable := by
  unfold granted served
  dsimp only
  rw [ok]

theorem granted_of_error {process : AudioProcess σ} {request : LERequest}
    (failed : (process.enableAudioLEConfig hal request.handle request.enable).1 ≠ .ok ()) :
    granted (served hal process request) = none := by
  unfold granted served
  dsimp only
  cases answer : (process.enableAudioLEConfig hal request.handle request.enable).1 with
  | error error => rfl
  | ok done => exact absurd answer failed

include keeps in
/-- Where no call of the HAL fails behind a grant, the flag is what was granted last. -/
theorem leEnabled_of_lastOf {process fresh state : AudioProcess σ}
    {trace : List (Occurrence (AudioProcess σ) LERequest (Except CoreError Unit))}
    (run : (leMachine hal).Run (process.restart hal build fresh) trace state)
    (resolved : hal.resolvesConfig .dsEnableLEConfig = true)
    (answered : ∀ earlier occurrence later, trace = earlier ++ occurrence :: later →
      (lastOf granted earlier).isSome →
        occurrence.action.enable ≠ occurrence.before.leEnabled →
          (hal.dsEnableLEConfig occurrence.before.volume.plugin.hal occurrence.action.handle
            occurrence.action.enable).1 = .ok ()) {enable : Bool}
    (last : lastOf granted trace = some enable) : state.leEnabled = enable := by
  induction run with
  | nil => simp at last
  | @snoc trace before request after effects prior taken ih =>
      obtain ⟨rfl, rfl⟩ := Prod.mk.inj (Option.some.inj taken)
      change lastOf granted (trace ++ [served hal before request]) = some enable at last
      have serves := servesLE_run keeps prior
      have flag := leEnabled_enableAudioLEConfig serves resolved request.handle request.enable
      rw [lastOf_snoc] at last
      by_cases answer : (before.enableAudioLEConfig hal request.handle request.enable).1 = .ok ()
      · rw [granted_of_ok answer, Option.some_or, Option.some.injEq] at last
        exact flag.trans last
      · rw [granted_of_error answer, Option.none_or] at last
        have held := ih (fun earlier occurrence later split => answered earlier occurrence
          (later ++ [_]) (by rw [split, List.append_assoc, List.cons_append])) last
        by_cases same : request.enable = before.leEnabled
        · exact flag.trans (same.trans held)
        · have told := answered trace _ [] rfl (by rw [last]; rfl) same
          obtain ⟨answers, -⟩ :=
            enableAudioLEConfig_of_ne resolved serves.ready same request.handle
          exact absurd (answers.mpr told) answer

include keeps in
/-- What holds before and behind a request is what the request must find. -/
theorem fits_of_holds {process : AudioProcess σ} (serves : ServesLE hal process)
    (resolved : hal.resolvesConfig .dsEnableLEConfig = true) {request : LERequest}
    {earlier : List (Occurrence (AudioProcess σ) LERequest (Except CoreError Unit))}
    (before : GrantsHold hal build le earlier process)
    (behind : GrantsHold hal build le (earlier ++ [served hal process request])
      (served hal process request).after) : LEStepFits hal le earlier process request := by
  constructor
  · intro same
    have unchanged := enableAudioLEConfig_of_same resolved same request.handle
    have effect := behind.inEffect _ (List.mem_append_right _ List.mem_cons_self) request.enable
      (granted_of_ok (congrArg Prod.fst unchanged))
    dsimp only [served] at effect
    rw [unchanged] at effect
    exact effect
  · intro port there some changes
    by_contra failed
    obtain ⟨enable, last⟩ := Option.isSome_iff_exists.mp some
    obtain ⟨answers, flag, -, -, -⟩ :=
      enableAudioLEConfig_of_ne resolved serves.ready changes request.handle
    have refused : (process.enableAudioLEConfig hal request.handle request.enable).1 ≠ .ok () :=
      fun answer => failed (answers.mp answer)
    have still : hal.dsGetAudioPort (served hal process request).after.volume.plugin.hal .hdmi 0 =
        .ok port := by
      rw [keeps.fixed _ process.volume.plugin.hal]
      exact there
    -- Both restarts apply the flag, and the flag has changed between them.
    have earlierFlag := before.restarts process _
      (appliedLE_of_serves build serves resolved there there) enable last
    have laterFlag := behind.restarts process _
      (appliedLE_of_serves build (servesLE_enableAudioLEConfig serves _ _) resolved still there)
      enable (by rw [lastOf_snoc, granted_of_error refused, Option.none_or, last])
    exact changes (flag.symm.trans (laterFlag.trans earlierFlag.symm))

include keeps in
/-- A run whose requests find what they must find. -/
theorem holds_of_fits {process fresh state : AudioProcess σ}
    {trace : List (Occurrence (AudioProcess σ) LERequest (Except CoreError Unit))}
    (run : (leMachine hal).Run (process.restart hal build fresh) trace state)
    (fits : hal.resolvesConfig .dsEnableLEConfig = true →
      ∀ earlier occurrence later, trace = earlier ++ occurrence :: later →
        LEStepFits hal le earlier occurrence.before occurrence.action) :
    GrantsHold hal build le trace state := by
  refine ⟨fun occurrence member enable grant => ?_, fun fresh applied found enable last => ?_⟩
  · obtain ⟨earlier, later, rfl⟩ := List.append_of_mem member
    obtain ⟨prior, taken⟩ := run.at_occurrence
    obtain ⟨before, request, rfl⟩ := exists_served taken
    by_cases answer : (before.enableAudioLEConfig hal request.handle request.enable).1 = .ok ()
    · have asked := (granted_of_ok answer).symm.trans grant
      have resolved : hal.resolvesConfig .dsEnableLEConfig = true := by
        by_contra unresolved
        rw [enableAudioLEConfig_of_unresolved unresolved] at answer
        exact absurd answer (by simp)
      have step := fits resolved earlier _ later rfl
      rw [← Option.some.inj asked]
      exact inEffect_of_fits keeps (servesLE_run keeps prior) resolved step.filtered answer
    · exact absurd ((granted_of_error answer).symm.trans grant) (by simp)
  · have serves := servesLE_run keeps run
    obtain ⟨resolved, port, there, -⟩ := AudioProcess.initializeLE_of_applied hal build found
    rw [keeps.fixed _ state.volume.plugin.hal] at there
    rw [appliedLE_reopened serves.ready (serves.mirrors resolved port there) found]
    refine leEnabled_of_lastOf keeps run resolved (fun earlier occurrence later split => ?_) last
    refine (fits resolved earlier occurrence later split).answered port ?_
    rw [keeps.fixed _ state.volume.plugin.hal]
    exact there

include keeps in
theorem grants_hold_iff {process fresh state : AudioProcess σ}
    {trace : List (Occurrence (AudioProcess σ) LERequest (Except CoreError Unit))}
    (run : (leMachine hal).Run (process.restart hal build fresh) trace state) :
    (∀ earlier later middle, trace = earlier ++ later →
      (leMachine hal).Run (process.restart hal build fresh) earlier middle →
        GrantsHold hal build le earlier middle) ↔
      (hal.resolvesConfig .dsEnableLEConfig = true →
        ∀ earlier occurrence later, trace = earlier ++ occurrence :: later →
          LEStepFits hal le earlier occurrence.before occurrence.action) := by
  constructor
  · intro holds resolved earlier occurrence later split
    subst split
    obtain ⟨prior, taken⟩ := run.at_occurrence
    have behind := Machine.Run.snoc prior taken
    obtain ⟨before, request, rfl⟩ := exists_served taken
    exact fits_of_holds keeps (servesLE_run keeps prior) resolved
      (holds earlier _ before rfl prior)
      (holds _ later _ (List.append_cons earlier _ later) behind)
  · intro fits earlier later middle split prior
    refine holds_of_fits keeps prior fun resolved first occurrence rest cut => ?_
    exact fits resolved first occurrence (rest ++ later) (by rw [split, cut]; simp)

end Contract

end Requests

namespace RememberedSettings

/-- A HAL that remembers its settings keeps an LE state for each handle. -/
theorem keepsLEState : hal.KeepsLEState fun memory => memory .leEnabled where
  fixed _ _ := rfl
  stores memory handle enable _ := by
    change memory.set .leEnabled handle enable .leEnabled = _
    exact Function.update_self _ _ _
  keeps _ _ _ _ failed := absurd failed (by simp [hal])

/-- The process behind the first `audioConfigInit`: the HDMI port, handle 1, has LE. -/
def started : AudioProcess HalAudioSettings := process.restart hal ⟨false, false⟩ process

/-- LE is switched off on the HDMI port, found off on the S/PDIF port and switched on there. -/
def requests : List LERequest := [⟨1, false⟩, ⟨2, false⟩, ⟨2, true⟩, ⟨2, true⟩]

end RememberedSettings

theorem grants_hold_iff_twoPorts :
    ∃ (state : AudioProcess HalAudioSettings)
      (trace : List (Occurrence (AudioProcess HalAudioSettings) LERequest (Except CoreError Unit))),
      (leMachine RememberedSettings.hal).play RememberedSettings.started
          RememberedSettings.requests = some (state, trace) ∧
        Machine.actionsOf trace = RememberedSettings.requests ∧
        trace.map granted = [some false, some false, some true, some true] ∧
        ((∀ earlier later middle, trace = earlier ++ later →
            (leMachine RememberedSettings.hal).Run (RememberedSettings.process.restart
              RememberedSettings.hal ⟨false, false⟩ RememberedSettings.process) earlier middle →
              GrantsHold RememberedSettings.hal ⟨false, false⟩ (fun memory => memory .leEnabled)
                earlier middle) ↔
          (RememberedSettings.hal.resolvesConfig .dsEnableLEConfig = true →
            ∀ earlier occurrence later, trace = earlier ++ occurrence :: later →
              LEStepFits RememberedSettings.hal (fun memory => memory .leEnabled) earlier
                occurrence.before occurrence.action)) ∧
        GrantsHold RememberedSettings.hal ⟨false, false⟩ (fun memory => memory .leEnabled) trace
          state := by
  obtain ⟨state, trace, played, answers, found⟩ :
      ∃ (state : AudioProcess HalAudioSettings)
        (trace : List (Occurrence (AudioProcess HalAudioSettings) LERequest
          (Except CoreError Unit))),
        (leMachine RememberedSettings.hal).play RememberedSettings.started
            RememberedSettings.requests = some (state, trace) ∧
          trace.map granted = [some false, some false, some true, some true] ∧
          ∀ occurrence ∈ trace, occurrence.action.enable = occurrence.before.leEnabled →
            occurrence.before.volume.plugin.hal .leEnabled occurrence.action.handle =
              occurrence.action.enable :=
    ⟨_, _, rfl, by decide +kernel, by decide +kernel⟩
  have run : (leMachine RememberedSettings.hal).Run (RememberedSettings.process.restart
      RememberedSettings.hal ⟨false, false⟩ RememberedSettings.process) trace state :=
    Machine.play_run played
  have exact_ := grants_hold_iff RememberedSettings.keepsLEState run
  have holds := exact_.mpr fun _ earlier occurrence later split =>
    ⟨found occurrence (split ▸ by simp), fun _ _ _ _ => rfl⟩
  exact ⟨state, trace, played, Machine.actionsOf_played played, answers, exact_,
    holds trace [] state (List.append_nil trace).symm run⟩

/-- LE is on for the HDMI port, and a request for the S/PDIF port, handle 2, is not passed on. -/
theorem not_grants_hold :
    (leMachine RememberedSettings.hal).Run RememberedSettings.started
        [served RememberedSettings.hal RememberedSettings.started ⟨2, true⟩]
        (served RememberedSettings.hal RememberedSettings.started ⟨2, true⟩).after ∧
      ¬GrantsHold RememberedSettings.hal ⟨false, false⟩ (fun memory => memory .leEnabled)
        [served RememberedSettings.hal RememberedSettings.started ⟨2, true⟩]
        (served RememberedSettings.hal RememberedSettings.started ⟨2, true⟩).after := by
  refine ⟨.snoc .nil rfl, fun holds => ?_⟩
  have unchanged : RememberedSettings.started.enableAudioLEConfig RememberedSettings.hal 2 true =
      (.ok (), RememberedSettings.started) := enableAudioLEConfig_of_same rfl rfl 2
  have effect := holds.inEffect _ List.mem_cons_self true
    (granted_of_ok (congrArg Prod.fst unchanged))
  dsimp only [served] at effect
  rw [unchanged] at effect
  exact absurd effect (by decide)

end DeviceSettings.Audio
