import DeviceSettings.Power.PortStates

/-!
# Audio ports over a run of power events

The disable path of one transition overwrites what the enable path of the next one reads. A
port that was disabled once is skipped from then on, so the ports do not come back with the
user's setting: whether a port is enabled depends on every power state of the run.
-/

namespace DeviceSettings.Power

open DeviceSettings.Std
open DeviceSettings.Audio
open DeviceSettings.VideoPort

variable {σ : Type} {platform : Platform σ}

/-- The port has a handle and the HAL reports it enabled. -/
def AudioPortEnabled (platform : Platform σ) (plugin : Plugin σ) (port : AudioPortEntry) : Prop :=
  match audioHandle platform plugin port with
  | some handle => plugin.isAudioPortEnabled platform.audio handle = .ok true
  | none => False

/-- `GetAudioEnablePersist` reports the port's user setting as enabled. -/
def UserEnabled (plugin : Plugin σ) (port : AudioPortEntry) : Prop :=
  (plugin.getAudioEnablePersist port.name).1 = .ok true

theorem userEnabled_congr {before after : Plugin σ} (same : before.SameSettings after)
    (port : AudioPortEntry) : UserEnabled after port ↔ UserEnabled before port := by
  unfold UserEnabled
  rw [Plugin.getAudioEnablePersist_congr same]

section Run

variable {enabled : σ → Int → Bool} {start listener : PwrEventListener σ}
  {trace : List (PowerStep σ)}

/-- No step changes a setting. -/
theorem sameSettings_step {after : PwrEventListener σ} {action : PowerAction}
    {effects : List Effect} (stepped : Stepped platform listener action after effects) :
    listener.settings.SameSettings after.settings := by
  cases stepped with
  | initialized getPowerState _ =>
      rw [initializePowerManager_settings]
      exact .refl _
  | queued event _ => exact .refl _
  | handled easMode event rest _ =>
      rw [handlePwrEventData_settings]
      exact sameSettings_setAVPortsPowerState _ easMode _ event.newState
  | standbyVideoState param =>
      rcases setStandbyVideoState_settings platform listener param with
        same | ⟨port, enable, same⟩
      · rw [same]
        exact .refl _
      · rw [same]
        exact sameSettings_configureVideoPort _ port enable

theorem sameSettings_run (run : (listenerMachine platform).Run start trace listener) :
    start.settings.SameSettings listener.settings := by
  induction run with
  | nil => exact .refl _
  | snoc _ taken ih => exact ih.trans (sameSettings_step (stepped_of_step taken))

variable (stores : platform.StoresAudioPorts enabled)
include stores

/-- One step on the handle of a configured port: it stays enabled when the step handles no
event but ON, and nothing enables it. -/
theorem audio_step {after : PwrEventListener σ} {action : PowerAction} {effects : List Effect}
    (stepped : Stepped platform listener action after effects) {port : AudioPortEntry}
    (configured : port ∈ platform.audioPortEntries) {handle : Int}
    (found : audioHandle platform listener.settings port = some handle) :
    enabled after.settings.hal handle = true ↔
      enabled listener.settings.hal handle = true ∧
        ∀ powerState ∈ handledState ⟨listener, action, effects, after⟩, powerState = .on := by
  cases stepped with
  | initialized getPowerState _ => simp [handledState]
  | queued event _ => simp [handledState]
  | handled easMode event rest queue =>
      rw [handlePwrEventData_settings]
      by_cases on : event.newState = .on
      · rw [on, setAVPortsPowerState_on_audio stores]
        simp [handledState, queue, on]
      · rw [setAVPortsPowerState_ne_on_audio stores (ready_of_audioHandle found) on,
          if_pos ⟨port, configured, found⟩]
        simp [handledState, queue, on]
  | standbyVideoState param =>
      rcases setStandbyVideoState_settings platform listener param with
        same | ⟨other, enable, same⟩
      · simp [same, handledState]
      · rw [same, configureVideoPort_keeps stores.video]
        simp [handledState]

/-- Behind a run the port is enabled exactly when it was at the start and every event of the
run was ON. -/
theorem audio_run (run : (listenerMachine platform).Run start trace listener)
    {port : AudioPortEntry} (configured : port ∈ platform.audioPortEntries) {handle : Int}
    (found : audioHandle platform start.settings port = some handle) :
    enabled listener.settings.hal handle = true ↔
      enabled start.settings.hal handle = true ∧
        ∀ powerState ∈ handledStates trace, powerState = .on := by
  induction run with
  | nil => simp
  | @snoc trace before action after effects prior taken ih =>
      have foundBefore : audioHandle platform before.settings port = some handle :=
        (audioHandle_congr stores (sameSettings_run prior) port).trans found
      rw [audio_step stores (stepped_of_step taken) configured foundBefore, ih,
        handledStates_append, and_assoc]
      simp [handledStates, or_imp, forall_and]

theorem audioPortEnabled_iff {plugin : Plugin σ} {port : AudioPortEntry} {handle : Int}
    (found : audioHandle platform plugin port = some handle) :
    AudioPortEnabled platform plugin port ↔ enabled plugin.hal handle = true := by
  simp [AudioPortEnabled, found, Plugin.isAudioPortEnabled, stores.reports]

/-- In every run, whatever its last state, a configured port with a handle is enabled as the
user has set it exactly when that setting says what the history says: enabled at the start
and nothing but ON since. -/
theorem audioPort_follows_user_iff (run : (listenerMachine platform).Run start trace listener)
    {port : AudioPortEntry} (configured : port ∈ platform.audioPortEntries)
    (found : (audioHandle platform start.settings port).isSome = true) :
    (AudioPortEnabled platform listener.settings port ↔ UserEnabled listener.settings port) ↔
      (UserEnabled start.settings port ↔
        AudioPortEnabled platform start.settings port ∧
          ∀ powerState ∈ handledStates trace, powerState = .on) := by
  obtain ⟨handle, foundStart⟩ := Option.isSome_iff_exists.mp found
  have same := sameSettings_run run
  have foundEnd := (audioHandle_congr stores same port).trans foundStart
  rw [audioPortEnabled_iff stores foundEnd, audioPortEnabled_iff stores foundStart,
    userEnabled_congr same, audio_run stores run configured foundStart]
  exact iff_comm

end Run

/-- ON to STANDBY and back. -/
def standbyCycle : List PowerEvent := [⟨.on, .standby⟩, ⟨.standby, .on⟩]

/-- Where the cycle leads when the port is enabled at the start and has no stored setting. -/
theorem run_standbyCycle :
    ∃ trace listener, (listenerMachine PortMemory.platform).Run
        (PortMemory.listener .zeroed standbyCycle) trace listener ∧
      handledStates trace = [.standby, .on] ∧
      listener.settings.hal.audio 2 = false ∧
      UserEnabled listener.settings ⟨.spdif, 0, "SPDIF0"⟩ :=
  ⟨_, _, Machine.play_run (show (listenerMachine PortMemory.platform).play
    (PortMemory.listener .zeroed standbyCycle) [.handlePwrEvent false, .handlePwrEvent false] =
      some (_, _) from rfl), rfl, rfl, rfl⟩

theorem audioPort_follows_user_iff_cycle :
    ∃ (trace : List (PowerStep PortMemory)) (listener : PwrEventListener PortMemory),
      handledStates trace = [.standby, .on] ∧
      ((AudioPortEnabled PortMemory.platform listener.settings ⟨.spdif, 0, "SPDIF0"⟩ ↔
          UserEnabled listener.settings ⟨.spdif, 0, "SPDIF0"⟩) ↔
        (UserEnabled PortMemory.plugin ⟨.spdif, 0, "SPDIF0"⟩ ↔
          AudioPortEnabled PortMemory.platform PortMemory.plugin ⟨.spdif, 0, "SPDIF0"⟩ ∧
            ∀ powerState ∈ handledStates trace, powerState = .on)) := by
  obtain ⟨trace, listener, run, handled, -⟩ := run_standbyCycle
  exact ⟨trace, listener, handled, audioPort_follows_user_iff PortMemory.storesAudioPorts run
    (List.mem_singleton.mpr rfl) rfl⟩

/-- The port that was disabled on the way into standby does not come back. -/
theorem not_audioPort_follows_user :
    ¬∀ (trace : List (PowerStep PortMemory)) (listener : PwrEventListener PortMemory),
      (listenerMachine PortMemory.platform).Run (PortMemory.listener .zeroed standbyCycle) trace
        listener →
      (handledStates trace).getLast? = some .on →
      ∀ port ∈ PortMemory.platform.audioPortEntries,
        AudioPortEnabled PortMemory.platform listener.settings port ↔
          UserEnabled listener.settings port := by
  intro follows
  obtain ⟨trace, listener, run, handled, disabled, user⟩ := run_standbyCycle
  have back := (follows trace listener run (by rw [handled]; rfl) ⟨.spdif, 0, "SPDIF0"⟩
    (List.mem_singleton.mpr rfl)).mpr user
  have same := sameSettings_run run
  have found : audioHandle PortMemory.platform listener.settings ⟨.spdif, 0, "SPDIF0"⟩ = some 2 :=
    audioHandle_congr PortMemory.storesAudioPorts same _
  rw [audioPortEnabled_iff PortMemory.storesAudioPorts found, disabled] at back
  exact Bool.false_ne_true back

end DeviceSettings.Power
