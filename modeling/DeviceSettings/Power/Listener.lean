import DeviceSettings.Audio.Ports
import DeviceSettings.Power.StandbyTable
import DeviceSettings.Std.Machine
import DeviceSettings.Std.Sweep
import DeviceSettings.VideoPort.Ports

/-!
# The power event listener

`DSPwrEventListener` queues the mode changes of the PowerManager, hands each to the product's
`UXController` when there is one, and configures the audio and video ports in
`SetAVPortsPowerState`. A step of its machine is one call by the PowerManager or a client, or
one event taken from the queue by `PwrEventHandlingThreadFunc`.
-/

namespace DeviceSettings.Power

open DeviceSettings.Std
open DeviceSettings.Audio
open DeviceSettings.VideoPort

/-- `IPowerManager::PowerState`. -/
inductive PowerState where
  | unknown
  | off
  | standby
  | on
  | standbyLightSleep
  | standbyDeepSleep
  deriving DecidableEq, Repr

/-- What `SetStandbyVideoState` takes for one of the standby states. -/
def PowerState.isStandby (state : PowerState) : Bool := state != .on && state != .off

/-- `DSMgr_Power_Event_State_t`. -/
structure PowerEvent where
  currentState : PowerState
  newState : PowerState
  deriving DecidableEq, Repr

structure VideoPortEntry where
  type : VideoPortType
  index : Int
  name : String
  deriving DecidableEq, Repr

structure AudioPortEntry where
  type : AudioPortType
  index : Int
  name : String
  deriving DecidableEq, Repr

/-- The ports of `DeviceSettingConfigs`. -/
structure PortConfigs where
  videoPorts : List (VideoPortType × Int)
  audioPorts : List (AudioPortType × Int)

/-- What the listener runs on. The port names come from the plugin's helpers and
`_setEASAudioMode` from another library; the configuration does not change once loaded, so
every refresh of the port caches builds the same entries. -/
structure Platform (σ : Type) where
  audio : AudioHal σ
  video : VideoPortHal σ
  setEASAudioMode : σ → σ
  configs : PortConfigs
  getVideoPortName : VideoPortType → Int → String
  getAudioPortName : AudioPortType → Int → String
  /-- `profileType == TV`. -/
  tvProfile : Bool
  /-- `ENABLE_LED_SYNC_IN_BOOTUP`. -/
  ledSyncInBootup : Bool

namespace Platform

variable {σ : Type} (platform : Platform σ)

/-- `_videoPortEntries` as `RefreshPortConfigurationCache` builds them. -/
def videoPortEntries : List VideoPortEntry :=
  platform.configs.videoPorts.map fun port =>
    ⟨port.1, port.2, platform.getVideoPortName port.1 port.2⟩

/-- `_audioPortEntries` as `RefreshPortConfigurationCache` builds them. -/
def audioPortEntries : List AudioPortEntry :=
  platform.configs.audioPorts.map fun port =>
    ⟨port.1, port.2, platform.getAudioPortName port.1 port.2⟩

/-- `ResolveVideoPortEntryByName(requestedPort, resolvedEntry)`. -/
def resolveVideoPortEntryByName (requestedPort : String) : Option VideoPortEntry :=
  platform.videoPortEntries.find? fun entry => entry.name == requestedPort

end Platform

inductive BootloaderPattern where
  | normal
  | silent
  | silentLedOn
  deriving DecidableEq, Repr

/-- What the listener asks of the rest of the system. -/
inductive Effect where
  | enableVideoPort (handle : Int) (enable : Bool)
  | enableAudioPort (handle : Int) (enable : Bool)
  | setEASAudioMode
  | setFPDState (on : Bool)
  | setBootLoaderPattern (pattern : BootloaderPattern)
  /-- The `result` field that `SetStandbyVideoState` gives back. -/
  | standbyVideoStateResult (result : Int)
  deriving DecidableEq, Repr

/-- `productProfileId_t`, naming the class of the controller. -/
inductive ProductProfile where
  | stb
  | tv
  | stbEurope
  | tvEurope
  deriving DecidableEq, Repr

/-- `UXController` with the fields that power transitions read or write. -/
structure UXController where
  profile : ProductProfile
  invalidateAsyncBootloaderPattern : Bool
  firstPowerTransitionComplete : Bool
  ledEnabledInStandby : Bool
  ledEnabledInOnState : Bool
  enableSilentRebootSupport : Bool
  deriving DecidableEq, Repr

/-- The controller `Initialize` constructs: `InitializeSafeDefaults` for the device type, and
no silent reboot for the plain set-top box. -/
def UXController.ofProfile (profile : ProductProfile) : UXController :=
  let stb := profile == .stb || profile == .stbEurope
  ⟨profile, false, false, !stb, stb, profile != .stb⟩

/-- The members of `DSPwrEventListener`, with the plugin behind `_deviceSettings`. -/
structure PwrEventListener (σ : Type) where
  curState : PowerState
  standbyVideoPortSetting : StandbyTable
  pwrEventQueue : List PowerEvent
  /-- `_powerManagerPlugin` is set. -/
  powerManagerPlugin : Bool
  registeredPowerEventHandler : Bool
  ux : Option UXController
  settings : Plugin σ

/-- The listener as its constructor leaves it, with the controller that `Init` found. -/
def PwrEventListener.constructed {σ : Type} (ux : Option UXController) (settings : Plugin σ) :
    PwrEventListener σ :=
  ⟨.standby, .zeroed, [], false, false, ux, settings⟩

section Configure

variable {σ : Type} (platform : Platform σ)

/-- `ConfigureVideoPort(portName, portType, index, requestEnable)`; a handle of zero leaves
the `ERROR_NONE` of the look-up in `result`. -/
def configureVideoPort (plugin : Plugin σ) (port : VideoPortEntry) (requestEnable : Bool) :
    Except CoreError Unit × Plugin σ × List Effect :=
  match getVideoPort platform.video plugin.hal port.type port.index with
  | .error error => (.error error, plugin, [])
  | .ok handle =>
    if handle = 0 then (.ok (), plugin, [])
    else
      let called := enableVideoPort platform.video plugin.hal handle requestEnable
      (called.1, { plugin with hal := called.2 }, [.enableVideoPort handle requestEnable])

/-- The enable call at the end of `ConfigureAudioPort`. -/
def issueAudioPort (plugin : Plugin σ) (handle : Int) (requestEnable : Bool) :
    Except CoreError Unit × Plugin σ × List Effect :=
  let called := plugin.enableAudioPort platform.audio handle requestEnable
  (called.1, called.2, [.enableAudioPort handle requestEnable])

/-- `ConfigureAudioPort(portName, portType, index, requestEnable, isConfigurationSkipped)`.
What the comment calls the persistent setting is what the HAL reports. -/
def configureAudioPort (plugin : Plugin σ) (port : AudioPortEntry) (requestEnable : Bool) :
    Except CoreError Unit × Plugin σ × List Effect :=
  match plugin.getAudioPort platform.audio port.type port.index with
  | .error error => (.error error, plugin, [])
  | .ok handle =>
    if handle = 0 then (.ok (), plugin, [])
    else if requestEnable then
      match plugin.isAudioPortEnabled platform.audio handle with
      | .ok false => (.ok (), plugin, [])
      | _ => issueAudioPort platform plugin handle true
    else issueAudioPort platform plugin handle false

/-- The loops that configure every video port alike. -/
def configureVideoPorts (plugin : Plugin σ) (requestEnable : Bool) : Plugin σ × List Effect :=
  sweep (fun plugin port => (configureVideoPort platform plugin port requestEnable).2) plugin
    platform.videoPortEntries

/-- The loops over the audio ports. -/
def configureAudioPorts (plugin : Plugin σ) (requestEnable : Bool) : Plugin σ × List Effect :=
  sweep (fun plugin port => (configureAudioPort platform plugin port requestEnable).2) plugin
    platform.audioPortEntries

/-- One video port for a state other than ON: with its standby setting true it stays as it
is, unless the state is OFF. -/
def leaveVideoPort (table : StandbyTable) (powerState : PowerState) (plugin : Plugin σ)
    (port : VideoPortEntry) : Plugin σ × List Effect :=
  let doEnable := table.getVideoPortStandbySetting port.name
  if doEnable = false ∨ powerState = .off then (configureVideoPort platform plugin port false).2
  else (plugin, [])

/-- The loop over the video ports for a state other than ON. -/
def leaveVideoPorts (table : StandbyTable) (powerState : PowerState) (plugin : Plugin σ) :
    Plugin σ × List Effect :=
  sweep (leaveVideoPort platform table powerState) plugin platform.videoPortEntries

/-- `SetAVPortsPowerState(powerState)`; `easMode` is what `getEASMode` answers. -/
def setAVPortsPowerState (table : StandbyTable) (easMode : Bool) (plugin : Plugin σ)
    (powerState : PowerState) : Plugin σ × List Effect :=
  if powerState ≠ .on then
    let video := leaveVideoPorts platform table powerState plugin
    let audio := configureAudioPorts platform video.1 false
    (audio.1, video.2 ++ audio.2)
  else
    let video := configureVideoPorts platform plugin true
    let audio := configureAudioPorts platform video.1 true
    if easMode then
      ({ audio.1 with hal := platform.setEASAudioMode audio.1.hal },
        video.2 ++ audio.2 ++ [.setEASAudioMode])
    else (audio.1, video.2 ++ audio.2)

/-- `SetLEDStatus(powerState)`: a television keeps its power LED on. -/
def setLEDStatus (powerState : PowerState) : List Effect :=
  [.setFPDState (powerState == .on || platform.tvProfile)]

end Configure

namespace UXController

/-- `SyncPowerLedWithPowerState(power_state)`. -/
def syncPowerLedWithPowerState (ux : UXController) (powerState : PowerState) : List Effect :=
  [.setFPDState (if powerState = .on then ux.ledEnabledInOnState else ux.ledEnabledInStandby)]

/-- `SetBootloaderPatternInternal(pattern)`. -/
def setBootloaderPatternInternal (ux : UXController) (pattern : BootloaderPattern) :
    UXController × List Effect :=
  ({ ux with invalidateAsyncBootloaderPattern := true },
    if ux.enableSilentRebootSupport then [.setBootLoaderPattern pattern] else [])

/-- `ApplyPowerStateChangeConfig(newState, prevState)` behind its call of
`SyncDisplayPortsWithPowerState`, which every controller makes first. -/
def applyPowerStateChangeConfig (ux : UXController) (newState : PowerState) :
    UXController × List Effect :=
  let pattern : BootloaderPattern := if newState = .on then .normal else .silentLedOn
  match ux.profile with
  | .tv => { ux with firstPowerTransitionComplete := true }.setBootloaderPatternInternal pattern
  | .tvEurope => ux.setBootloaderPatternInternal pattern
  | .stb | .stbEurope => (ux, ux.syncPowerLedWithPowerState newState)

end UXController

/-- The argument of `SetStandbyVideoState`. -/
structure StandbyVideoStateParam where
  port : String
  isEnabled : Int
  deriving DecidableEq, Repr

/-- A call that reaches the listener, or an event taken from its queue. -/
inductive PowerAction where
  /-- `InitializePowerManager`: no PowerManager, or the answer of its `GetPowerState`. -/
  | initializePowerManager (getPowerState : Option (Except CoreError PowerState))
  | onPowerModeChanged (event : PowerEvent)
  /-- `PwrEventHandlingThreadFunc` takes one event and handles it. -/
  | handlePwrEvent (easMode : Bool)
  | setStandbyVideoState (param : StandbyVideoStateParam)

namespace PwrEventListener

variable {σ : Type} (platform : Platform σ)

/-- `InitializePowerManager()`; only a successful `GetPowerState` is kept. -/
def initializePowerManager (listener : PwrEventListener σ)
    (getPowerState : Option (Except CoreError PowerState)) : PwrEventListener σ :=
  match getPowerState with
  | none => { listener with powerManagerPlugin := false }
  | some answer =>
    let listener :=
      { listener with powerManagerPlugin := true, registeredPowerEventHandler := true }
    match answer with
    | .ok pwrStateCur => { listener with curState := pwrStateCur }
    | .error _ => listener

/-- `HandlePwrEventData(currentState, newState)`. -/
def handlePwrEventData (listener : PwrEventListener σ) (easMode : Bool) (event : PowerEvent) :
    PwrEventListener σ × List Effect :=
  let ports := setAVPortsPowerState platform listener.standbyVideoPortSetting easMode
    listener.settings event.newState
  match listener.ux with
  | some ux =>
    let applied := ux.applyPowerStateChangeConfig event.newState
    ({ listener with settings := ports.1, ux := some applied.1 }, ports.2 ++ applied.2)
  | none =>
    let led := if platform.ledSyncInBootup then setLEDStatus platform event.newState else []
    ({ listener with settings := ports.1 }, led ++ ports.2)

/-- The two loops of `SetStandbyVideoState` over its table. -/
def recordStandbySetting (listener : PwrEventListener σ) (param : StandbyVideoStateParam) :
    PwrEventListener σ :=
  { listener with
    standbyVideoPortSetting :=
      listener.standbyVideoPortSetting.set param.port (param.isEnabled != 0) }

/-- `SetStandbyVideoState` in one of the standby states: the port is configured right away. -/
def applyStandbySetting (listener : PwrEventListener σ) (param : StandbyVideoStateParam) :
    PwrEventListener σ × List Effect :=
  match platform.resolveVideoPortEntryByName param.port with
  | none => (listener, [.standbyVideoStateResult (-1)])
  | some resolvedPort =>
    let configured :=
      configureVideoPort platform listener.settings resolvedPort (param.isEnabled == 1)
    let result : Int :=
      match configured.1 with
      | .ok _ => 0
      | .error _ => -1
    ({ listener with settings := configured.2.1 },
      configured.2.2 ++ [.standbyVideoStateResult result])

/-- `SetStandbyVideoState(arg)` for an argument that is there: the setting is written, and
applied when `_curState` is one of the standby states. -/
def setStandbyVideoState (listener : PwrEventListener σ) (param : StandbyVideoStateParam) :
    PwrEventListener σ × List Effect :=
  let listener := listener.recordStandbySetting param
  if listener.curState ≠ .on ∧ listener.curState ≠ .off then
    listener.applyStandbySetting platform param
  else (listener, [.standbyVideoStateResult 0])

/-- `GetStandbyVideoState(arg)`: the `isEnabled` field it fills in. -/
def getStandbyVideoState (listener : PwrEventListener σ) (port : String) : Int :=
  if listener.standbyVideoPortSetting.getVideoPortStandbySetting port then 1 else 0

/-- One step. The connection thread repeats `InitializePowerManager` until the handler is
registered, and mode changes only reach a registered handler. -/
def step (listener : PwrEventListener σ) :
    PowerAction → Option (PwrEventListener σ × List Effect)
  | .initializePowerManager getPowerState =>
    if listener.powerManagerPlugin && listener.registeredPowerEventHandler then none
    else some (listener.initializePowerManager getPowerState, [])
  | .onPowerModeChanged event =>
    if listener.registeredPowerEventHandler then
      some ({ listener with pwrEventQueue := listener.pwrEventQueue ++ [event] }, [])
    else none
  | .handlePwrEvent easMode =>
    match listener.pwrEventQueue with
    | [] => none
    | event :: rest =>
      some ({ listener with pwrEventQueue := rest }.handlePwrEventData platform easMode event)
  | .setStandbyVideoState param => some (listener.setStandbyVideoState platform param)

end PwrEventListener

/-- The listener on its platform. -/
def listenerMachine {σ : Type} (platform : Platform σ) :
    Machine (PwrEventListener σ) PowerAction Effect :=
  ⟨PwrEventListener.step platform⟩

/-- A step of the listener together with the states around it. -/
abbrev PowerStep (σ : Type) := Occurrence (PwrEventListener σ) PowerAction Effect

/-- The power state a step hands to `SetAVPortsPowerState`. -/
def handledState {σ : Type} (occurrence : PowerStep σ) : Option PowerState :=
  match occurrence.action with
  | .handlePwrEvent _ => occurrence.before.pwrEventQueue.head?.map PowerEvent.newState
  | _ => none

/-- The power states handled in a trace, oldest first. -/
def handledStates {σ : Type} (trace : List (PowerStep σ)) : List PowerState :=
  trace.filterMap handledState

@[simp] theorem handledStates_nil {σ : Type} :
    handledStates ([] : List (PowerStep σ)) = [] := rfl

@[simp] theorem handledStates_append {σ : Type} (left right : List (PowerStep σ)) :
    handledStates (left ++ right) = handledStates left ++ handledStates right :=
  List.filterMap_append

section Steps

variable {σ : Type} {platform : Platform σ}

/-- What a step of the listener can be. -/
inductive Stepped (platform : Platform σ) (listener : PwrEventListener σ) :
    PowerAction → PwrEventListener σ → List Effect → Prop where
  | initialized (getPowerState : Option (Except CoreError PowerState))
      (notYet : (listener.powerManagerPlugin && listener.registeredPowerEventHandler) = false) :
      Stepped platform listener (.initializePowerManager getPowerState)
        (listener.initializePowerManager getPowerState) []
  | queued (event : PowerEvent) (registered : listener.registeredPowerEventHandler = true) :
      Stepped platform listener (.onPowerModeChanged event)
        { listener with pwrEventQueue := listener.pwrEventQueue ++ [event] } []
  | handled (easMode : Bool) (event : PowerEvent) (rest : List PowerEvent)
      (queue : listener.pwrEventQueue = event :: rest) :
      Stepped platform listener (.handlePwrEvent easMode)
        ({ listener with pwrEventQueue := rest }.handlePwrEventData platform easMode event).1
        ({ listener with pwrEventQueue := rest }.handlePwrEventData platform easMode event).2
  | standbyVideoState (param : StandbyVideoStateParam) :
      Stepped platform listener (.setStandbyVideoState param)
        (listener.setStandbyVideoState platform param).1
        (listener.setStandbyVideoState platform param).2

theorem stepped_of_step {listener after : PwrEventListener σ} {action : PowerAction}
    {effects : List Effect}
    (taken : (listenerMachine platform).step listener action = some (after, effects)) :
    Stepped platform listener action after effects := by
  cases action with
  | initializePowerManager getPowerState =>
      simp only [listenerMachine, PwrEventListener.step] at taken
      split_ifs at taken with connected
      cases taken
      exact .initialized getPowerState (by simpa using connected)
  | onPowerModeChanged event =>
      simp only [listenerMachine, PwrEventListener.step] at taken
      split_ifs at taken with registered
      cases taken
      exact .queued event registered
  | handlePwrEvent easMode =>
      simp only [listenerMachine, PwrEventListener.step] at taken
      split at taken
      next => cases taken
      next event rest queue =>
          obtain ⟨rfl, rfl⟩ := Prod.ext_iff.mp (Option.some.inj taken)
          exact .handled easMode event rest queue
  | setStandbyVideoState param =>
      obtain ⟨rfl, rfl⟩ := Prod.ext_iff.mp (Option.some.inj taken)
      exact .standbyVideoState param

@[simp] theorem initializePowerManager_settings (listener : PwrEventListener σ)
    (getPowerState : Option (Except CoreError PowerState)) :
    (listener.initializePowerManager getPowerState).settings = listener.settings := by
  rcases getPowerState with _ | _ | _ <;> rfl

@[simp] theorem initializePowerManager_standbyVideoPortSetting (listener : PwrEventListener σ)
    (getPowerState : Option (Except CoreError PowerState)) :
    (listener.initializePowerManager getPowerState).standbyVideoPortSetting =
      listener.standbyVideoPortSetting := by
  rcases getPowerState with _ | _ | _ <;> rfl

@[simp] theorem handlePwrEventData_settings (listener : PwrEventListener σ) (easMode : Bool)
    (event : PowerEvent) :
    (listener.handlePwrEventData platform easMode event).1.settings =
      (setAVPortsPowerState platform listener.standbyVideoPortSetting easMode listener.settings
        event.newState).1 := by
  unfold PwrEventListener.handlePwrEventData
  dsimp only
  split <;> rfl

@[simp] theorem handlePwrEventData_standbyVideoPortSetting (listener : PwrEventListener σ)
    (easMode : Bool) (event : PowerEvent) :
    (listener.handlePwrEventData platform easMode event).1.standbyVideoPortSetting =
      listener.standbyVideoPortSetting := by
  unfold PwrEventListener.handlePwrEventData
  dsimp only
  split <;> rfl

/-- Handling an event leaves `_curState` as it is. -/
@[simp] theorem handlePwrEventData_curState (listener : PwrEventListener σ) (easMode : Bool)
    (event : PowerEvent) :
    (listener.handlePwrEventData platform easMode event).1.curState = listener.curState := by
  unfold PwrEventListener.handlePwrEventData
  dsimp only
  split <;> rfl

@[simp] theorem recordStandbySetting_settings (listener : PwrEventListener σ)
    (param : StandbyVideoStateParam) :
    (listener.recordStandbySetting param).settings = listener.settings := rfl

@[simp] theorem recordStandbySetting_curState (listener : PwrEventListener σ)
    (param : StandbyVideoStateParam) :
    (listener.recordStandbySetting param).curState = listener.curState := rfl

@[simp] theorem applyStandbySetting_curState (listener : PwrEventListener σ)
    (param : StandbyVideoStateParam) :
    (listener.applyStandbySetting platform param).1.curState = listener.curState := by
  unfold PwrEventListener.applyStandbySetting
  split <;> rfl

/-- `SetStandbyVideoState` leaves `_curState` as it is. -/
@[simp] theorem setStandbyVideoState_curState (listener : PwrEventListener σ)
    (param : StandbyVideoStateParam) :
    (listener.setStandbyVideoState platform param).1.curState = listener.curState := by
  unfold PwrEventListener.setStandbyVideoState
  dsimp only
  split_ifs
  · simp
  · rfl

/-- `SetStandbyVideoState` configures one video port at most. -/
theorem setStandbyVideoState_settings (platform : Platform σ) (listener : PwrEventListener σ)
    (param : StandbyVideoStateParam) :
    (listener.setStandbyVideoState platform param).1.settings = listener.settings ∨
      ∃ port enable, (listener.setStandbyVideoState platform param).1.settings =
        (configureVideoPort platform listener.settings port enable).2.1 := by
  unfold PwrEventListener.setStandbyVideoState PwrEventListener.applyStandbySetting
  dsimp only
  split_ifs
  · split
    · exact Or.inl rfl
    next port _ => exact Or.inr ⟨port, param.isEnabled == 1, rfl⟩
  · exact Or.inl rfl

end Steps

@[simp] theorem handledStates_singleton {σ : Type} (occurrence : PowerStep σ) :
    handledStates [occurrence] = (handledState occurrence).toList := by
  cases found : handledState occurrence <;> simp [handledStates, found]

end DeviceSettings.Power
