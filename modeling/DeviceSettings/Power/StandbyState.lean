import DeviceSettings.Power.PortStates

/-!
# The power state `SetStandbyVideoState` believes in

`_curState` is written by the constructor and by `InitializePowerManager` and never again:
no handled event reaches it. So the setting is applied right away according to the state the
device was in when the PowerManager was found, whatever has happened since.
-/

namespace DeviceSettings.Power

open DeviceSettings.Std
open DeviceSettings.Audio
open DeviceSettings.VideoPort

section Runs

variable {σ : Type} {platform : Platform σ}

/-- What a successful `GetPowerState` in `InitializePowerManager` answers. -/
def reportedState (occurrence : PowerStep σ) : Option PowerState :=
  match occurrence.action with
  | .initializePowerManager (some (.ok pwrStateCur)) => some pwrStateCur
  | _ => none

/-- The first such answer of a trace. -/
def firstReported (trace : List (PowerStep σ)) : Option PowerState :=
  trace.findSome? reportedState

/-- The state `InitializePowerManager` finds; `pwrStateCur` starts as UNKNOWN there. -/
def initialPowerState (trace : List (PowerStep σ)) : PowerState :=
  (firstReported trace).getD .unknown

theorem firstReported_snoc (trace : List (PowerStep σ)) (occurrence : PowerStep σ) :
    firstReported (trace ++ [occurrence]) =
      (firstReported trace).or (reportedState occurrence) := by
  simp [firstReported, List.findSome?_append]

theorem firstReported_of_quiet {trace : List (PowerStep σ)} {occurrence : PowerStep σ}
    (quiet : reportedState occurrence = none) :
    firstReported (trace ++ [occurrence]) = firstReported trace := by
  rw [firstReported_snoc, quiet, Option.or_none]

/-- The state of the last handled event, or the initial one when there was none. -/
def newestState (trace : List (PowerStep σ)) : PowerState :=
  (handledStates trace).getLast?.getD (initialPowerState trace)

/-- The call issues `EnableVideoPort` immediately. -/
def IssuesEnable (effects : List Effect) : Prop :=
  ∃ handle enable, .enableVideoPort handle enable ∈ effects

/-- The name is that of a configured port with a handle. -/
def Resolves (platform : Platform σ) (state : σ) (name : String) : Prop :=
  ∃ port, platform.resolveVideoPortEntryByName name = some port ∧
    (videoHandle platform state port).isSome = true

/-- The connection thread has found the PowerManager and is done. -/
def PwrEventListener.connected (listener : PwrEventListener σ) : Bool :=
  listener.powerManagerPlugin && listener.registeredPowerEventHandler

theorem handlePwrEventData_connected (listener : PwrEventListener σ) (easMode : Bool)
    (event : PowerEvent) :
    (listener.handlePwrEventData platform easMode event).1.connected = listener.connected := by
  unfold PwrEventListener.handlePwrEventData
  dsimp only
  split <;> rfl

theorem setStandbyVideoState_connected (listener : PwrEventListener σ)
    (param : StandbyVideoStateParam) :
    (listener.setStandbyVideoState platform param).1.connected = listener.connected := by
  unfold PwrEventListener.setStandbyVideoState PwrEventListener.applyStandbySetting
  dsimp only
  split_ifs
  · split <;> rfl
  · rfl

theorem initializePowerManager_curState (listener : PwrEventListener σ)
    (getPowerState : Option (Except CoreError PowerState)) :
    (listener.initializePowerManager getPowerState).curState =
      match getPowerState with
      | some (.ok pwrStateCur) => pwrStateCur
      | _ => listener.curState := by
  rcases getPowerState with _ | _ | _ <;> rfl

/-- In every reachable state `_curState` is what the first answer of `GetPowerState` was, and
STANDBY as long as there is none; behind that answer the thread does not ask again. -/
theorem curState_run {ux : Option UXController} {settings : Plugin σ}
    {trace : List (PowerStep σ)} {listener : PwrEventListener σ}
    (run : (listenerMachine platform).Run (.constructed ux settings) trace listener) :
    listener.curState = (firstReported trace).getD .standby ∧
      ((firstReported trace).isSome = true → listener.connected = true) := by
  induction run with
  | nil => exact ⟨rfl, fun reported => by simp [firstReported] at reported⟩
  | @snoc trace before action after effects prior taken ih =>
      obtain ⟨current, connected⟩ := ih
      cases stepped_of_step taken with
      | initialized getPowerState notYet =>
          have unreported : firstReported trace = none := by
            by_contra reported
            have done := connected (Option.isSome_iff_ne_none.mpr reported)
            rw [PwrEventListener.connected, notYet] at done
            exact Bool.false_ne_true done
          rw [unreported] at current
          rw [initializePowerManager_curState, firstReported_snoc, unreported, Option.none_or,
            current]
          rcases getPowerState with _ | _ | pwrStateCur
          · simp [reportedState]
          · simp [reportedState]
          · simp [reportedState, PwrEventListener.initializePowerManager,
              PwrEventListener.connected]
      | queued event _ =>
          rw [firstReported_of_quiet rfl]
          exact ⟨current, connected⟩
      | handled easMode event rest _ =>
          rw [handlePwrEventData_curState, handlePwrEventData_connected,
            firstReported_of_quiet rfl]
          exact ⟨current, connected⟩
      | standbyVideoState param =>
          rw [setStandbyVideoState_curState, setStandbyVideoState_connected,
            firstReported_of_quiet rfl]
          exact ⟨current, connected⟩

/-- The constructor's STANDBY and the unanswered UNKNOWN are treated alike. -/
theorem isStandby_curState {ux : Option UXController} {settings : Plugin σ}
    {trace : List (PowerStep σ)} {listener : PwrEventListener σ}
    (run : (listenerMachine platform).Run (.constructed ux settings) trace listener) :
    listener.curState.isStandby = (initialPowerState trace).isStandby := by
  rw [(curState_run run).1, initialPowerState]
  cases firstReported trace <;> rfl

/-- A call of `SetStandbyVideoState` issues `EnableVideoPort` exactly when `_curState` is a
standby state and the name resolves. -/
theorem issuesEnable_iff (listener : PwrEventListener σ) (param : StandbyVideoStateParam) :
    IssuesEnable (listener.setStandbyVideoState platform param).2 ↔
      listener.curState.isStandby = true ∧
        Resolves platform listener.settings.hal param.port := by
  have standby : listener.curState.isStandby = true ↔
      listener.curState ≠ .on ∧ listener.curState ≠ .off := by
    simp [PowerState.isStandby]
  unfold PwrEventListener.setStandbyVideoState IssuesEnable Resolves
  dsimp only
  rw [recordStandbySetting_curState, standby]
  split_ifs with asleep
  · unfold PwrEventListener.applyStandbySetting
    cases resolved : platform.resolveVideoPortEntryByName param.port with
    | none => simp
    | some port =>
        simp only [recordStandbySetting_settings, configureVideoPort_snd]
        cases found : videoHandle platform listener.settings.hal port with
        | none => simp [found]
        | some handle => simp [asleep, found]
  · simp [asleep]

/-- In every run from the constructor on, a call of `SetStandbyVideoState` acts immediately
just in the standby states exactly when the state found at the start says about standby what
the newest handled event says, and in standby the name resolves to a port. -/
theorem actsInStandby_iff {ux : Option UXController} {settings : Plugin σ}
    {trace : List (PowerStep σ)} {listener : PwrEventListener σ}
    (run : (listenerMachine platform).Run (.constructed ux settings) trace listener)
    {param : StandbyVideoStateParam} {after : PwrEventListener σ} {effects : List Effect}
    (called : (listenerMachine platform).step listener (.setStandbyVideoState param) =
      some (after, effects)) :
    (IssuesEnable effects ↔ (newestState trace).isStandby = true) ↔
      ((initialPowerState trace).isStandby = true ∧
          Resolves platform listener.settings.hal param.port ↔
        (newestState trace).isStandby = true) := by
  cases stepped_of_step called with
  | standbyVideoState param => rw [issuesEnable_iff, isStandby_curState run]

end Runs

/-- The PowerManager is found in STANDBY, and an ON event is handled. -/
def wakeUp : List PowerAction :=
  [.initializePowerManager (some (.ok .standby)), .onPowerModeChanged ⟨.standby, .on⟩,
    .handlePwrEvent false]

/-- HDMI0 is not to be enabled in standby. -/
def disableHdmi : StandbyVideoStateParam := ⟨"HDMI0", 0⟩

/-- The run of these actions, and the call behind it. -/
theorem run_wakeUp :
    ∃ (trace : List (PowerStep PortMemory)) (listener after : PwrEventListener PortMemory),
      (listenerMachine PortMemory.platform).Run (.constructed none PortMemory.plugin) trace
        listener ∧
      trace.map Occurrence.action = wakeUp ∧
      listener.pwrEventQueue = [] ∧
      newestState trace = .on ∧
      (listenerMachine PortMemory.platform).step listener (.setStandbyVideoState disableHdmi) =
        some (after, [.enableVideoPort 1 false, .standbyVideoStateResult 0]) :=
  ⟨_, _, _, Machine.play_run (show (listenerMachine PortMemory.platform).play
    (.constructed none PortMemory.plugin) wakeUp = some (_, _) from rfl), rfl, rfl, rfl, rfl⟩

theorem actsInStandby_iff_wakeUp :
    ∃ (trace : List (PowerStep PortMemory)) (listener : PwrEventListener PortMemory)
      (effects : List Effect), trace.map Occurrence.action = wakeUp ∧
      ((IssuesEnable effects ↔ (newestState trace).isStandby = true) ↔
        ((initialPowerState trace).isStandby = true ∧
            Resolves PortMemory.platform listener.settings.hal disableHdmi.port ↔
          (newestState trace).isStandby = true)) := by
  obtain ⟨trace, listener, after, run, actions, -, -, called⟩ := run_wakeUp
  exact ⟨trace, listener, _, actions, actsInStandby_iff run called⟩

/-- The device is ON, and the call for its next standby disables HDMI0 at once. -/
theorem not_actsInStandby :
    ¬∀ (trace : List (PowerStep PortMemory)) (listener after : PwrEventListener PortMemory)
      (effects : List Effect),
      (listenerMachine PortMemory.platform).Run (.constructed none PortMemory.plugin) trace
        listener →
      listener.pwrEventQueue = [] →
      (listenerMachine PortMemory.platform).step listener (.setStandbyVideoState disableHdmi) =
        some (after, effects) →
      (IssuesEnable effects ↔ (newestState trace).isStandby = true) := by
  intro acts
  obtain ⟨trace, listener, after, run, -, noPending, newest, called⟩ := run_wakeUp
  have standby := (acts trace listener after _ run noPending called).mp
    ⟨1, false, List.mem_cons_self⟩
  rw [newest] at standby
  exact Bool.false_ne_true standby

end DeviceSettings.Power
