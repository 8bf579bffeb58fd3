import DeviceSettings.Std.Machine

/-!
# The threads of the controller

`DSController` shares a single event slot, two flags and a timer id between the HAL
callback threads, the IARM event thread, its resolution thread and the main loop. Every
critical section and every access to a shared variable outside of one is a step here, so
the callbacks may run between any two accesses of `ResolutionThreadFunc`. Only the removal of
the timer and its start, `clearHotplugSource` and `scheduleHandler`, are one step each: the
timer id is read, used and written there without a callback in between.
-/

namespace DeviceSettings.Controller

open DeviceSettings.Std

/-- `dsDisplayEvent_t` as the slot `_displayEventStatus` uses it; `max` marks it empty. -/
inductive DisplayEventStatus where
  | connected
  | disconnected
  | max
  deriving DecidableEq, Repr

/-- The events of `OnDisplayHDMIHotPlug`. -/
inductive HotPlug where
  | connected
  | disconnected
  deriving DecidableEq, Repr

/-- `dsHdcpStatus_t`. -/
inductive HdcpStatus where
  | unpowered
  | unauthenticated
  | authenticated
  | authenticationFailure
  | inProgress
  | portDisabled
  deriving DecidableEq, Repr

inductive BackgroundColor where
  | none
  | blue
  deriving DecidableEq, Repr

/-- Who runs a function that several threads call. -/
inductive Caller where
  | resolutionThread
  | eventHandler
  | hdcpHandler
  | mainLoop
  deriving DecidableEq, Repr

/-- What the controller does to the rest of the system. -/
inductive Effect where
  | setVideoPortResolution (caller : Caller)
  | setAudioMode (caller : Caller)
  | setBackgroundColor (color : BackgroundColor)
  | scheduleEdidDump
  | broadcastHdcp (state : Nat)
  deriving DecidableEq, Repr

/-- Where `ResolutionThreadFunc` stands; the argument is `edisplayEventStatusLocal`. -/
inductive ResolutionPhase where
  /-- At the head of the loop, or blocked in `pthread_cond_wait`. -/
  | waiting
  | clearingSource (event : DisplayEventStatus)
  | testing (event : DisplayEventStatus)
  /-- Behind the test for CONNECTED, in front of the test of `_hdcpAuthenticated`. -/
  | settingResolution (event : DisplayEventStatus)
  | settingAudio (event : DisplayEventStatus)
  | droppingHdcp (event : DisplayEventStatus)
  | schedulingHandler (event : DisplayEventStatus)
  | resetting (event : DisplayEventStatus)
  | exited
  deriving DecidableEq, Repr

/-- Where `EventHandler` stands after it has set `_tuneReady`. -/
inductive EventPhase where
  | idle
  | settingAudio
  | signalling
  deriving DecidableEq, Repr

/-- Where `HandleHDCPStatus` stands. -/
inductive HdcpPhase where
  | idle
  | clearingSource
  | settingResolution
  | droppingHdcp
  | failedResolution
  deriving DecidableEq, Repr

/-- Where the GLib main loop stands in `SetResolutionHandler`. -/
inductive MainLoopPhase where
  | idle
  | settingResolution (source : Nat)
  | clearingSource (source : Nat)
  deriving DecidableEq, Repr

/-- What does not change once `Start` has run: the `_ignoreEdid` it reads from the HAL
and the answer of `isComponentPortPresent`. -/
structure Platform where
  ignoreEdid : Bool
  componentPortPresent : Bool
  deriving DecidableEq, Repr

/-- The shared variables of the controller and every thread's place in the code. -/
structure ControllerState where
  displayEventStatus : DisplayEventStatus
  tuneReady : Bool
  hdcpAuthenticated : Bool
  bootupFlagEnabled : Bool
  hotplugEventSrc : Nat
  exitFlag : Bool
  /-- Timer sources that have neither started nor been removed, and the next id. -/
  scheduled : List Nat
  nextSource : Nat
  resolutionThread : ResolutionPhase
  eventHandler : EventPhase
  hdcpHandler : HdcpPhase
  mainLoop : MainLoopPhase
  deriving DecidableEq, Repr

/-- A callback that is delivered, or the next step of a thread. -/
inductive ControllerAction where
  | hotPlug (event : HotPlug)
  | tuneReady
  | hdcpStatus (status : HdcpStatus)
  | resolutionThread
  | resolutionExit
  | eventHandler
  | hdcpHandler
  | mainLoop
  | startTimer (source : Nat)
  | stop
  deriving DecidableEq, Repr

/-- What the callback writes into the slot. -/
def HotPlug.status : HotPlug → DisplayEventStatus
  | .connected => .connected
  | .disconnected => .disconnected

theorem HotPlug.status_ne_max (event : HotPlug) : event.status ≠ .max := by
  cases event <;> simp [status]

namespace ControllerState

/-- `if (_hotplugEventSrc) { g_source_remove(_hotplugEventSrc); _hotplugEventSrc = 0; }` -/
def clearHotplugSource (state : ControllerState) : ControllerState :=
  if state.hotplugEventSrc = 0 then state
  else
    { state with
      scheduled := state.scheduled.erase state.hotplugEventSrc
      hotplugEventSrc := 0 }

/-- `_hotplugEventSrc = g_timeout_add_seconds(5, SetResolutionHandler, ...)` -/
def scheduleHandler (state : ControllerState) : ControllerState :=
  { state with
    scheduled := state.scheduled ++ [state.nextSource]
    hotplugEventSrc := state.nextSource
    nextSource := state.nextSource + 1 }

/-- Clearing the timer id touches no other shared variable. -/
@[simp] theorem clearHotplugSource_frame (state : ControllerState) :
    state.clearHotplugSource.displayEventStatus = state.displayEventStatus ∧
      state.clearHotplugSource.tuneReady = state.tuneReady ∧
      state.clearHotplugSource.hdcpAuthenticated = state.hdcpAuthenticated ∧
      state.clearHotplugSource.exitFlag = state.exitFlag ∧
      state.clearHotplugSource.resolutionThread = state.resolutionThread ∧
      state.clearHotplugSource.eventHandler = state.eventHandler ∧
      state.clearHotplugSource.hdcpHandler = state.hdcpHandler ∧
      state.clearHotplugSource.mainLoop = state.mainLoop := by
  unfold clearHotplugSource
  split_ifs <;> simp

theorem clearHotplugSource_scheduled {state : ControllerState} (noTimer : state.scheduled = []) :
    state.clearHotplugSource.scheduled = [] := by
  unfold clearHotplugSource
  split_ifs <;> simp [noTimer]

/-- `OnDisplayHDMIHotPlug`. -/
def onDisplayHDMIHotPlug (state : ControllerState) (event : HotPlug) :
    ControllerState × List Effect :=
  ({ state with displayEventStatus := event.status }, [.setBackgroundColor .none])

/-- `EventHandler` up to the point where it has set `_tuneReady`. -/
def onTuneReady (state : ControllerState) : ControllerState × List Effect :=
  if state.tuneReady then (state, [])
  else ({ state with tuneReady := true, eventHandler := .settingAudio }, [])

/-- The rest of `EventHandler`: its signal writes no variable the waiter tests. -/
def eventHandlerStep (state : ControllerState) : Option (ControllerState × List Effect) :=
  match state.eventHandler with
  | .idle => none
  | .settingAudio =>
    some ({ state with eventHandler := .signalling }, [.setAudioMode .eventHandler])
  | .signalling => some ({ state with eventHandler := .idle }, [])

/-- `HandleHDCPStatus` up to its first write of `_hdcpAuthenticated`. -/
def onHdcpStatus (state : ControllerState) (status : HdcpStatus) :
    ControllerState × List Effect :=
  match status with
  | .authenticated =>
    ({ state with hdcpAuthenticated := true, hdcpHandler := .clearingSource }, [])
  | .authenticationFailure =>
    ({ state with hdcpHandler := .droppingHdcp }, [.setBackgroundColor .blue])
  | .unpowered | .unauthenticated | .inProgress | .portDisabled => (state, [.broadcastHdcp 1])

/-- The rest of `HandleHDCPStatus`. -/
def hdcpHandlerStep (platform : Platform) (state : ControllerState) :
    Option (ControllerState × List Effect) :=
  match state.hdcpHandler with
  | .idle => none
  | .clearingSource =>
    some ({ state.clearHotplugSource with hdcpHandler := .settingResolution },
      [.setBackgroundColor .none])
  | .settingResolution =>
    if !platform.ignoreEdid || state.bootupFlagEnabled then
      some ({ state with bootupFlagEnabled := false, hdcpHandler := .idle },
        [.setVideoPortResolution .hdcpHandler, .scheduleEdidDump, .broadcastHdcp 1])
    else
      some ({ state with hdcpHandler := .idle }, [.scheduleEdidDump, .broadcastHdcp 1])
  | .droppingHdcp =>
    some ({ state with hdcpAuthenticated := false, hdcpHandler := .failedResolution }, [])
  | .failedResolution =>
    some ({ state with hdcpHandler := .idle },
      (if platform.ignoreEdid then [] else [.setVideoPortResolution .hdcpHandler]) ++
        [.scheduleEdidDump, .broadcastHdcp 0])

/-- The next access of `ResolutionThreadFunc` to something shared. -/
def resolutionStep (platform : Platform) (state : ControllerState) :
    Option (ControllerState × List Effect) :=
  match state.resolutionThread with
  | .waiting =>
    if state.exitFlag || state.displayEventStatus ≠ .max then
      some ({ state with resolutionThread := .clearingSource state.displayEventStatus }, [])
    else none
  | .clearingSource event =>
    some ({ state.clearHotplugSource with resolutionThread := .testing event }, [])
  | .testing event =>
    if state.tuneReady && event = .connected then
      some ({ state with resolutionThread := .settingResolution event }, [])
    else if state.tuneReady && event = .disconnected then
      some ({ state with resolutionThread := .droppingHdcp event }, [])
    else some ({ state with resolutionThread := .resetting event }, [])
  | .settingResolution event =>
    some ({ state with resolutionThread := .settingAudio event },
      if state.hdcpAuthenticated then [.setVideoPortResolution .resolutionThread] else [])
  | .settingAudio event =>
    some ({ state with resolutionThread := .resetting event }, [.setAudioMode .resolutionThread])
  | .droppingHdcp event =>
    some ({ state with hdcpAuthenticated := false, resolutionThread := .schedulingHandler event },
      [])
  | .schedulingHandler event =>
    if platform.componentPortPresent then
      some ({ state.scheduleHandler with resolutionThread := .resetting event }, [])
    else some ({ state with resolutionThread := .resetting event }, [])
  | .resetting _ =>
    -- the slot is emptied whatever it holds by now
    some ({ state with displayEventStatus := .max, resolutionThread := .waiting }, [])
  | .exited => none

/-- The test `while (!_dsMgr_thread_exit_flag)` finds the flag set. -/
def resolutionExit (state : ControllerState) : Option (ControllerState × List Effect) :=
  if state.resolutionThread = .waiting ∧ state.exitFlag then
    some ({ state with resolutionThread := .exited }, [])
  else none

/-- The resolution thread never writes `_tuneReady` or the exit flag. -/
theorem resolutionStep_frame {platform : Platform} {before after : ControllerState}
    {effects : List Effect} (taken : before.resolutionStep platform = some (after, effects)) :
    after.tuneReady = before.tuneReady ∧ after.exitFlag = before.exitFlag ∧
      after.hdcpHandler = before.hdcpHandler ∧ after.mainLoop = before.mainLoop := by
  unfold resolutionStep at taken
  split at taken
  · split_ifs at taken
    cases taken
    simp
  · cases taken
    simp
  · split_ifs at taken <;> cases taken <;> simp
  · cases taken
    simp
  · cases taken
    simp
  · cases taken
    simp
  · split_ifs at taken <;> cases taken <;> simp [scheduleHandler]
  · cases taken
    simp
  · cases taken

/-- `HandleHDCPStatus` never writes `_tuneReady` or the exit flag. -/
theorem hdcpHandlerStep_frame {platform : Platform} {before after : ControllerState}
    {effects : List Effect} (taken : before.hdcpHandlerStep platform = some (after, effects)) :
    after.tuneReady = before.tuneReady ∧ after.exitFlag = before.exitFlag := by
  unfold hdcpHandlerStep at taken
  split at taken
  · cases taken
  · cases taken
    simp
  · split_ifs at taken <;> cases taken <;> simp
  · cases taken
    simp
  · cases taken
    simp

/-- The main loop starts a source that is still scheduled. -/
def startTimer (state : ControllerState) (source : Nat) :
    Option (ControllerState × List Effect) :=
  if state.mainLoop = .idle ∧ source ∈ state.scheduled then
    some ({ state with
      scheduled := state.scheduled.erase source
      mainLoop := .settingResolution source }, [.setVideoPortResolution .mainLoop])
  else none

/-- The rest of `SetResolutionHandler`. -/
def mainLoopStep (state : ControllerState) : Option (ControllerState × List Effect) :=
  match state.mainLoop with
  | .idle => none
  | .settingResolution source => some ({ state with mainLoop := .clearingSource source }, [])
  | .clearingSource _ => some ({ state with hotplugEventSrc := 0, mainLoop := .idle }, [])

/-- A second callback of a kind waits until the first has returned. -/
def step (platform : Platform) (state : ControllerState) :
    ControllerAction → Option (ControllerState × List Effect)
  | .hotPlug event => some (state.onDisplayHDMIHotPlug event)
  | .tuneReady => if state.eventHandler = .idle then some state.onTuneReady else none
  | .hdcpStatus status =>
    if state.hdcpHandler = .idle then some (state.onHdcpStatus status) else none
  | .resolutionThread => state.resolutionStep platform
  | .resolutionExit => state.resolutionExit
  | .eventHandler => state.eventHandlerStep
  | .hdcpHandler => state.hdcpHandlerStep platform
  | .mainLoop => state.mainLoopStep
  | .startTimer source => state.startTimer source
  | .stop => some ({ state with exitFlag := true }, [])

end ControllerState

/-- The controller as a machine over its shared variables. -/
def controller (platform : Platform) :
    Machine ControllerState ControllerAction Effect where
  step := ControllerState.step platform

/-- A step of a run of the controller. -/
abbrev ControllerStep := Occurrence ControllerState ControllerAction Effect

/-- After `Start`: with TuneReady already set it posts a CONNECTED event of its own. -/
def ControllerState.initial (tuneReady : Bool) : ControllerState where
  displayEventStatus := if tuneReady then .connected else .max
  tuneReady := tuneReady
  hdcpAuthenticated := false
  bootupFlagEnabled := true
  hotplugEventSrc := 0
  exitFlag := false
  scheduled := []
  nextSource := 1
  resolutionThread := .waiting
  eventHandler := .idle
  hdcpHandler := .idle
  mainLoop := .idle

end DeviceSettings.Controller
