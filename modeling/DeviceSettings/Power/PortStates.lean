import DeviceSettings.Audio.Enabling
import DeviceSettings.Power.Listener

/-!
# What a power state does to the ports

On a HAL that stores the enabled state per port, ON enables every video port and no audio
port, every other state disables every audio port, and a video port is never enabled on the
way into standby.
-/

namespace DeviceSettings.Power

open DeviceSettings.Std
open DeviceSettings.Audio
open DeviceSettings.VideoPort

section Ports

variable {σ β : Type} {platform : Platform σ}

/-- The audio HAL stores the ports' states, and the other calls of the listener leave them
alone. -/
structure Platform.StoresAudioPorts (platform : Platform σ) (enabled : σ → Int → Bool) : Prop
    extends AudioHal.StoresPorts platform.audio enabled where
  video : platform.video.Keeps enabled
  eas : ∀ state, enabled (platform.setEASAudioMode state) = enabled state

/-- The video HAL stores the ports' states, and the other calls of the listener leave them
alone. -/
structure Platform.StoresVideoPorts (platform : Platform σ) (enabled : σ → Int → Bool) : Prop
    extends VideoPortHal.StoresPorts platform.video enabled where
  audio : platform.audio.Keeps enabled
  eas : ∀ state, enabled (platform.setEASAudioMode state) = enabled state

/-- The handle `ConfigureVideoPort` works with; none when the look-up fails or gives zero. -/
def videoHandle (platform : Platform σ) (state : σ) (port : VideoPortEntry) : Option Int :=
  match getVideoPort platform.video state port.type port.index with
  | .ok handle => if handle = 0 then none else some handle
  | .error _ => none

/-- The handle `ConfigureAudioPort` works with; none when the look-up fails or gives zero. -/
def audioHandle (platform : Platform σ) (plugin : Plugin σ) (port : AudioPortEntry) :
    Option Int :=
  match plugin.getAudioPort platform.audio port.type port.index with
  | .ok handle => if handle = 0 then none else some handle
  | .error _ => none

/-- A handle is only given out by an initialised audio component. -/
theorem ready_of_audioHandle {plugin : Plugin σ} {port : AudioPortEntry} {handle : Int}
    (found : audioHandle platform plugin port = some handle) :
    plugin.audio.isInitialized = true := by
  cases ready : plugin.audio.isInitialized with
  | true => rfl
  | false => simp [audioHandle, Plugin.getAudioPort, ready] at found

/-! ### One port -/

theorem configureVideoPort_snd (plugin : Plugin σ) (port : VideoPortEntry) (enable : Bool) :
    (configureVideoPort platform plugin port enable).2 =
      match videoHandle platform plugin.hal port with
      | none => (plugin, [])
      | some handle =>
        ({ plugin with hal := (platform.video.dsEnableVideoPort plugin.hal handle enable).2 },
          [.enableVideoPort handle enable]) := by
  unfold configureVideoPort videoHandle
  cases getVideoPort platform.video plugin.hal port.type port.index with
  | error error => rfl
  | ok handle =>
      by_cases zero : handle = 0
      · simp [zero]
      · simp [zero]

theorem configureAudioPort_snd (plugin : Plugin σ) (port : AudioPortEntry) (enable : Bool) :
    (configureAudioPort platform plugin port enable).2 =
      match audioHandle platform plugin port with
      | none => (plugin, [])
      | some handle =>
        if enable = true ∧ plugin.isAudioPortEnabled platform.audio handle = .ok false then
          (plugin, [])
        else (issueAudioPort platform plugin handle enable).2 := by
  unfold configureAudioPort audioHandle
  cases plugin.getAudioPort platform.audio port.type port.index with
  | error error => rfl
  | ok handle =>
      by_cases zero : handle = 0
      · simp [zero]
      · cases enable with
        | false => simp [zero]
        | true =>
            simp only [if_neg zero, if_true, true_and]
            split
            next skipped => simp [skipped]
            next asked => rw [if_neg asked]

theorem sameSettings_configureVideoPort (plugin : Plugin σ) (port : VideoPortEntry)
    (enable : Bool) :
    plugin.SameSettings (configureVideoPort platform plugin port enable).2.1 := by
  rw [configureVideoPort_snd]
  cases videoHandle platform plugin.hal port with
  | none => exact .refl plugin
  | some handle => exact .ofHal plugin _

theorem sameSettings_configureAudioPort (plugin : Plugin σ) (port : AudioPortEntry)
    (enable : Bool) :
    plugin.SameSettings (configureAudioPort platform plugin port enable).2.1 := by
  rw [configureAudioPort_snd]
  cases audioHandle platform plugin port with
  | none => exact .refl plugin
  | some handle =>
      dsimp only
      split_ifs
      · exact .refl plugin
      · exact Plugin.sameSettings_enableAudioPort platform.audio plugin handle enable

/-- Configuring video ports leaves alone what `dsEnableVideoPort` leaves alone. -/
theorem configureVideoPort_keeps {view : σ → β} (keeps : platform.video.Keeps view)
    (plugin : Plugin σ) (port : VideoPortEntry) (enable : Bool) :
    view (configureVideoPort platform plugin port enable).2.1.hal = view plugin.hal := by
  rw [configureVideoPort_snd]
  cases videoHandle platform plugin.hal port with
  | none => rfl
  | some handle => exact keeps plugin.hal handle enable

/-- Configuring audio ports leaves alone what the audio calls leave alone. -/
theorem configureAudioPort_keeps {view : σ → β} (keeps : platform.audio.Keeps view)
    (plugin : Plugin σ) (port : AudioPortEntry) (enable : Bool) :
    view (configureAudioPort platform plugin port enable).2.1.hal = view plugin.hal := by
  rw [configureAudioPort_snd]
  cases audioHandle platform plugin port with
  | none => rfl
  | some handle =>
      dsimp only
      split_ifs
      · rfl
      · exact Plugin.enableAudioPort_keeps keeps plugin handle enable

theorem leaveVideoPort_eq (table : StandbyTable) (powerState : PowerState) (plugin : Plugin σ)
    (port : VideoPortEntry) :
    leaveVideoPort platform table powerState plugin port =
      if table.getVideoPortStandbySetting port.name = false ∨ powerState = .off then
        (configureVideoPort platform plugin port false).2
      else (plugin, []) := rfl

/-! ### All ports -/

theorem sameSettings_configureVideoPorts (plugin : Plugin σ) (enable : Bool) :
    plugin.SameSettings (configureVideoPorts platform plugin enable).1 :=
  sweep_invariant plugin.SameSettings (.refl plugin) fun state holds port _ =>
    holds.trans (sameSettings_configureVideoPort state port enable)

theorem sameSettings_configureAudioPorts (plugin : Plugin σ) (enable : Bool) :
    plugin.SameSettings (configureAudioPorts platform plugin enable).1 :=
  sweep_invariant plugin.SameSettings (.refl plugin) fun state holds port _ =>
    holds.trans (sameSettings_configureAudioPort state port enable)

theorem sameSettings_leaveVideoPorts (table : StandbyTable) (powerState : PowerState)
    (plugin : Plugin σ) :
    plugin.SameSettings (leaveVideoPorts platform table powerState plugin).1 := by
  refine sweep_invariant plugin.SameSettings (.refl plugin) fun state holds port _ => ?_
  rw [leaveVideoPort_eq]
  split_ifs
  · exact holds.trans (sameSettings_configureVideoPort state port false)
  · exact holds

/-- `SetAVPortsPowerState` changes no setting. -/
theorem sameSettings_setAVPortsPowerState (table : StandbyTable) (easMode : Bool)
    (plugin : Plugin σ) (powerState : PowerState) :
    plugin.SameSettings
      (setAVPortsPowerState platform table easMode plugin powerState).1 := by
  unfold setAVPortsPowerState
  dsimp only
  split_ifs
  · exact (sameSettings_leaveVideoPorts table powerState plugin).trans
      (sameSettings_configureAudioPorts _ false)
  · exact ((sameSettings_configureVideoPorts plugin true).trans
      (sameSettings_configureAudioPorts _ true)).trans (.ofHal _ _)
  · exact (sameSettings_configureVideoPorts plugin true).trans
      (sameSettings_configureAudioPorts _ true)

section Audio

variable {enabled : σ → Int → Bool} (stores : platform.StoresAudioPorts enabled)
include stores

/-- The handles of the audio ports do not change while the settings do not. -/
theorem audioHandle_congr {before after : Plugin σ} (same : before.SameSettings after)
    (port : AudioPortEntry) :
    audioHandle platform after port = audioHandle platform before port := by
  unfold audioHandle Plugin.getAudioPort
  rw [same.initialized, stores.fixed after.hal before.hal]

theorem configureVideoPorts_audio (plugin : Plugin σ) (enable : Bool) :
    enabled (configureVideoPorts platform plugin enable).1.hal = enabled plugin.hal :=
  sweep_invariant (fun state : Plugin σ => enabled state.hal = enabled plugin.hal) rfl
    fun state holds port _ =>
      (configureVideoPort_keeps stores.video state port enable).trans holds

theorem leaveVideoPorts_audio (table : StandbyTable) (powerState : PowerState)
    (plugin : Plugin σ) :
    enabled (leaveVideoPorts platform table powerState plugin).1.hal = enabled plugin.hal := by
  refine sweep_invariant (fun state : Plugin σ => enabled state.hal = enabled plugin.hal) rfl
    fun state holds port _ => ?_
  rw [leaveVideoPort_eq]
  split_ifs
  · exact (configureVideoPort_keeps stores.video state port false).trans holds
  · exact holds

/-- The enable path asks the HAL first, and a port that is enabled stays so: nothing moves. -/
theorem configureAudioPort_true (plugin : Plugin σ) (port : AudioPortEntry) :
    enabled (configureAudioPort platform plugin port true).2.1.hal = enabled plugin.hal := by
  rw [configureAudioPort_snd]
  cases audioHandle platform plugin port with
  | none => rfl
  | some handle =>
      dsimp only
      split_ifs with skipped
      · rfl
      · apply Plugin.enableAudioPort_true stores.toStoresPorts
        by_contra disabled
        apply skipped
        simpa [Plugin.isAudioPortEnabled, stores.reports] using disabled

theorem configureAudioPorts_true (plugin : Plugin σ) :
    enabled (configureAudioPorts platform plugin true).1.hal = enabled plugin.hal :=
  sweep_invariant (fun state : Plugin σ => enabled state.hal = enabled plugin.hal) rfl
    fun state holds port _ => (configureAudioPort_true stores state port).trans holds

theorem configureAudioPort_false {plugin : Plugin σ} (ready : plugin.audio.isInitialized = true)
    (port : AudioPortEntry) (key : Int) :
    enabled (configureAudioPort platform plugin port false).2.1.hal key =
      if audioHandle platform plugin port = some key then false else enabled plugin.hal key := by
  rw [configureAudioPort_snd]
  cases found : audioHandle platform plugin port with
  | none => simp
  | some handle =>
      have disabled := Plugin.enableAudioPort_false stores.toStoresPorts ready handle
      simp only [Bool.false_eq_true, false_and, if_false, issueAudioPort, disabled,
        Function.update_apply, Option.some.injEq]
      simp only [eq_comm]

theorem configureAudioPorts_false {plugin : Plugin σ} (ready : plugin.audio.isInitialized = true)
    (key : Int) :
    enabled (configureAudioPorts platform plugin false).1.hal key =
      if ∃ port ∈ platform.audioPortEntries, audioHandle platform plugin port = some key then
        false
      else enabled plugin.hal key := by
  refine sweep_writes plugin.SameSettings (fun state : Plugin σ => enabled state.hal)
    (fun port key => audioHandle platform plugin port = some key) (.refl plugin) ?_ ?_ key
  · intro state holds port _
    exact holds.trans (sameSettings_configureAudioPort state port false)
  · intro state holds port _ key
    have stateReady := holds.initialized.trans ready
    rw [configureAudioPort_false stores stateReady, audioHandle_congr stores holds]

/-- ON enables no audio port and disables none. -/
theorem setAVPortsPowerState_on_audio (table : StandbyTable) (easMode : Bool)
    (plugin : Plugin σ) :
    enabled (setAVPortsPowerState platform table easMode plugin .on).1.hal =
      enabled plugin.hal := by
  have ports : enabled (configureAudioPorts platform
      (configureVideoPorts platform plugin true).1 true).1.hal = enabled plugin.hal := by
    rw [configureAudioPorts_true stores, configureVideoPorts_audio stores]
  unfold setAVPortsPowerState
  cases easMode with
  | true => exact (stores.eas _).trans ports
  | false => exact ports

/-- Every other state disables the audio ports that have a handle. -/
theorem setAVPortsPowerState_ne_on_audio {plugin : Plugin σ}
    (ready : plugin.audio.isInitialized = true) {powerState : PowerState}
    (other : powerState ≠ .on) (table : StandbyTable) (easMode : Bool) (key : Int) :
    enabled (setAVPortsPowerState platform table easMode plugin powerState).1.hal key =
      if ∃ port ∈ platform.audioPortEntries, audioHandle platform plugin port = some key then
        false
      else enabled plugin.hal key := by
  have same : plugin.SameSettings (leaveVideoPorts platform table powerState plugin).1 :=
    sameSettings_leaveVideoPorts table powerState plugin
  unfold setAVPortsPowerState
  rw [if_pos other]
  dsimp only
  rw [configureAudioPorts_false stores (same.initialized.trans ready),
    leaveVideoPorts_audio stores]
  simp only [audioHandle_congr stores same]

end Audio

section Video

variable {enabled : σ → Int → Bool} (stores : platform.StoresVideoPorts enabled)
include stores

theorem videoHandle_fixed (state other : σ) (port : VideoPortEntry) :
    videoHandle platform state port = videoHandle platform other port := by
  unfold videoHandle getVideoPort
  rw [stores.fixed state other]

theorem configureVideoPort_stores (start : σ) (plugin : Plugin σ) (port : VideoPortEntry)
    (enable : Bool) (key : Int) :
    enabled (configureVideoPort platform plugin port enable).2.1.hal key =
      if videoHandle platform start port = some key then enable else enabled plugin.hal key := by
  rw [configureVideoPort_snd, videoHandle_fixed stores plugin.hal start]
  cases videoHandle platform start port with
  | none => simp
  | some handle =>
      simp only [stores.stores, Function.update_apply, Option.some.injEq]
      simp only [eq_comm]

theorem configureVideoPorts_video (start : σ) (plugin : Plugin σ) (enable : Bool) (key : Int) :
    enabled (configureVideoPorts platform plugin enable).1.hal key =
      if ∃ port ∈ platform.videoPortEntries, videoHandle platform start port = some key then
        enable
      else enabled plugin.hal key :=
  sweep_writes (fun _ => True) (fun state : Plugin σ => enabled state.hal)
    (fun port key => videoHandle platform start port = some key) trivial
    (fun _ _ _ _ => trivial)
    (fun state _ port _ key => configureVideoPort_stores stores start state port enable key) key

theorem leaveVideoPorts_video (start : σ) (table : StandbyTable) (powerState : PowerState)
    (plugin : Plugin σ) (key : Int) :
    enabled (leaveVideoPorts platform table powerState plugin).1.hal key =
      if ∃ port ∈ platform.videoPortEntries,
          (table.getVideoPortStandbySetting port.name = false ∨ powerState = .off) ∧
            videoHandle platform start port = some key then
        false
      else enabled plugin.hal key := by
  unfold leaveVideoPorts
  rw [sweep_writes (fun _ => True) (fun state : Plugin σ => enabled state.hal)
    (fun port key =>
      (table.getVideoPortStandbySetting port.name = false ∨ powerState = .off) ∧
        videoHandle platform start port = some key) trivial (fun _ _ _ _ => trivial)]
  intro state _ port _ key
  rw [leaveVideoPort_eq]
  by_cases leaves : table.getVideoPortStandbySetting port.name = false ∨ powerState = .off
  · rw [if_pos leaves, configureVideoPort_stores stores start]
    simp only [leaves, true_and]
  · rw [if_neg leaves]
    simp only [leaves, false_and, if_false]

theorem configureAudioPorts_video (plugin : Plugin σ) (enable : Bool) :
    enabled (configureAudioPorts platform plugin enable).1.hal = enabled plugin.hal :=
  sweep_invariant (fun state : Plugin σ => enabled state.hal = enabled plugin.hal) rfl
    fun state holds port _ =>
      (configureAudioPort_keeps stores.audio state port enable).trans holds

/-- ON enables the video ports that have a handle. -/
theorem setAVPortsPowerState_on_video (start : σ) (table : StandbyTable) (easMode : Bool)
    (plugin : Plugin σ) (key : Int) :
    enabled (setAVPortsPowerState platform table easMode plugin .on).1.hal key =
      if ∃ port ∈ platform.videoPortEntries, videoHandle platform start port = some key then
        true
      else enabled plugin.hal key := by
  have ports : enabled (configureAudioPorts platform
      (configureVideoPorts platform plugin true).1 true).1.hal key =
        if ∃ port ∈ platform.videoPortEntries, videoHandle platform start port = some key then
          true
        else enabled plugin.hal key := by
    rw [configureAudioPorts_video stores]
    exact configureVideoPorts_video stores start plugin true key
  unfold setAVPortsPowerState
  cases easMode with
  | true => exact (congrFun (stores.eas _) key).trans ports
  | false => exact ports

/-- Every other state disables the video ports whose standby setting is false, in OFF all of
them, and enables none. -/
theorem setAVPortsPowerState_ne_on_video (start : σ) {powerState : PowerState}
    (other : powerState ≠ .on) (table : StandbyTable) (easMode : Bool) (plugin : Plugin σ)
    (key : Int) :
    enabled (setAVPortsPowerState platform table easMode plugin powerState).1.hal key =
      if ∃ port ∈ platform.videoPortEntries,
          (table.getVideoPortStandbySetting port.name = false ∨ powerState = .off) ∧
            videoHandle platform start port = some key then
        false
      else enabled plugin.hal key := by
  unfold setAVPortsPowerState
  rw [if_pos other]
  dsimp only
  rw [configureAudioPorts_video stores]
  exact leaveVideoPorts_video stores start table powerState plugin key

end Video
end Ports

/-! ### A HAL that is a memory of its ports -/

/-- The enabled state under every handle. -/
structure PortMemory where
  audio : Int → Bool
  video : Int → Bool

namespace PortMemory

/-- One SPDIF port; every call on it succeeds. -/
def audioHal : AudioHal PortMemory where
  dsGetAudioPort _ type _ := if type = .spdif then .ok 2 else .error .operationNotSupported
  dsIsAudioPortEnabled memory handle := .ok (memory.audio handle)
  dsIsAudioMute _ _ := .ok false
  dsEnableAudioPort memory handle enable :=
    (.ok (), { memory with audio := Function.update memory.audio handle enable })
  dsSetAudioLevel memory _ _ := (.ok (), memory)
  dsSetAudioDelay memory _ _ := (.ok (), memory)

/-- One HDMI port; every call on it succeeds. -/
def videoHal : VideoPortHal PortMemory where
  dsGetVideoPort _ type _ := if type = .hdmi then .ok 1 else .error .operationNotSupported
  dsIsVideoPortEnabled memory handle := .ok (memory.video handle)
  dsEnableVideoPort memory handle enable :=
    (.ok (), { memory with video := Function.update memory.video handle enable })

def platform : Platform PortMemory where
  audio := audioHal
  video := videoHal
  setEASAudioMode := id
  configs := ⟨[(.hdmi, 0)], [(.spdif, 0)]⟩
  getVideoPortName _ _ := "HDMI0"
  getAudioPortName _ _ := "SPDIF0"
  tvProfile := false
  ledSyncInBootup := false

theorem storesAudioPorts : platform.StoresAudioPorts PortMemory.audio where
  level _ _ _ := rfl
  delay _ _ _ := rfl
  fixed _ _ := rfl
  reports _ _ := rfl
  succeeds _ _ _ := rfl
  stores _ _ _ := rfl
  video _ _ _ := rfl
  eas _ := rfl

theorem storesVideoPorts : platform.StoresVideoPorts PortMemory.video where
  fixed _ _ := rfl
  reports _ _ := rfl
  succeeds _ _ _ := rfl
  stores _ _ _ := rfl
  audio := { level := fun _ _ _ => rfl, delay := fun _ _ _ => rfl, enable := fun _ _ _ => rfl }
  eas _ := rfl

/-- The plugin with both ports enabled and an empty property store. -/
def plugin : Plugin PortMemory where
  hal := ⟨fun _ => true, fun _ => true⟩
  audio := ⟨true, false, 0, ⟨0, 0, 0, 0⟩, fun _ => true⟩
  store := .ofStoreFile "/opt/persistent/ds/hostData"
  files _ := .absent

/-- A set-top box whose listener has these settings and these events to handle. -/
def listener (table : StandbyTable) (queue : List PowerEvent) : PwrEventListener PortMemory where
  curState := .on
  standbyVideoPortSetting := table
  pwrEventQueue := queue
  powerManagerPlugin := true
  registeredPowerEventHandler := true
  ux := some (.ofProfile .stbEurope)
  settings := plugin

end PortMemory
end DeviceSettings.Power
