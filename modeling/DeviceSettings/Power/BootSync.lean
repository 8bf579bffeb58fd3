import DeviceSettings.Power.PostReboot
import DeviceSettings.Std.LastWrite

/-!
# The sync at boot and the power events

The connection thread registers for the power events, reads the power state and sets the ports by
what it has read. The event thread sets them by the events, which come from the registration on.
Nothing orders the two calls of `SetAVPortsPowerState`.
-/

namespace DeviceSettings.Power

open DeviceSettings.Std

/-- `PwrRetryEstablishConnThread` with `InitializePowerManager` and
`PwrControllerFetchNinitStateValues`. -/
inductive ConnectionPhase where
  /-- The test at the head of the loop. -/
  | testing
  | connecting
  | registering
  | readingPowerState
  | fetching
  | deriving (powerStateBeforeReboot : PowerState)
  | syncing (powerState : PowerState)
  /-- The thread has ended, with the state that it has derived. -/
  | ended (derived : Option PowerState)
  deriving DecidableEq, Repr

/-- The members of the listener that the threads share, and where the threads are. -/
structure BootState where
  powerManagerPlugin : Bool
  registeredPowerEventHandler : Bool
  curState : PowerState
  pwrEventQueue : List PowerEvent
  connection : ConnectionPhase
  /-- The event that `PwrEventHandlingThreadFunc` has taken out and not passed on yet. -/
  inHand : Option PowerEvent

/-- The steps of the connection thread with the answers it gets, an event that the PowerManager
delivers, and the steps of the event thread. -/
inductive BootAction where
  | test
  | createInterface (available : Bool)
  | registerPowerEventHandler
  | getPowerState (answer : Except CoreError PowerState)
  | getPowerStateBeforeReboot (answer : Except CoreError PowerState)
  | applyPostRebootConfig (files : RebootFiles)
  | syncDisplayPorts
  | onPowerModeChanged (event : PowerEvent)
  | popEvent
  | handlePwrEventData

/-- An event was delivered, or `SetAVPortsPowerState` called by one of the threads. -/
inductive BootEffect where
  | delivered (event : PowerEvent)
  | setAtBoot (powerState : PowerState)
  | setForEvent (event : PowerEvent)
  deriving DecidableEq, Repr

namespace BootState

/-- The listener as constructed, when the threads start. -/
def initial : BootState := ⟨false, false, .standby, [], .testing, none⟩

/-- What `PwrControllerFetchNinitStateValues` derives from `_curState`. -/
def derivedState (ux : Option UXController) (files : RebootFiles)
    (curState powerStateBeforeReboot : PowerState) : Option PowerState :=
  match ux with
  | some ux => ux.postRebootDisplayState files curState powerStateBeforeReboot
  | none => some curState

variable (ux : Option UXController)

def step (state : BootState) : BootAction → Option (BootState × List BootEffect)
  | .test =>
    match state.connection with
    | .testing =>
      let connected := state.powerManagerPlugin && state.registeredPowerEventHandler
      some ({ state with connection := if connected then .fetching else .connecting }, [])
    | _ => none
  | .createInterface available =>
    match state.connection with
    | .connecting =>
      some ({ state with
        powerManagerPlugin := available
        connection := if available then .registering else .testing }, [])
    | _ => none
  | .registerPowerEventHandler =>
    match state.connection with
    | .registering =>
      some ({ state with
        registeredPowerEventHandler := true, connection := .readingPowerState }, [])
    | _ => none
  | .getPowerState answer =>
    match state.connection with
    | .readingPowerState =>
      match answer with
      | .ok pwrStateCur =>
        some ({ state with curState := pwrStateCur, connection := .testing }, [])
      | .error _ => some ({ state with connection := .testing }, [])
    | _ => none
  | .getPowerStateBeforeReboot answer =>
    match state.connection with
    | .fetching =>
      match answer with
      | .ok powerStateBeforeReboot =>
        some ({ state with connection := .deriving powerStateBeforeReboot }, [])
      | .error _ => some ({ state with connection := .deriving .standby }, [])
    | _ => none
  | .applyPostRebootConfig files =>
    match state.connection with
    | .deriving powerStateBeforeReboot =>
      match derivedState ux files state.curState powerStateBeforeReboot with
      | some powerState => some ({ state with connection := .syncing powerState }, [])
      | none => some ({ state with connection := .ended none }, [])
    | _ => none
  | .syncDisplayPorts =>
    match state.connection with
    | .syncing powerState =>
      some ({ state with connection := .ended (some powerState) }, [.setAtBoot powerState])
    | _ => none
  | .onPowerModeChanged event =>
    if state.registeredPowerEventHandler then
      some ({ state with pwrEventQueue := state.pwrEventQueue ++ [event] }, [.delivered event])
    else none
  | .popEvent =>
    match state.inHand, state.pwrEventQueue with
    | none, event :: rest =>
      some ({ state with inHand := some event, pwrEventQueue := rest }, [])
    | _, _ => none
  | .handlePwrEventData =>
    match state.inHand with
    | some event => some ({ state with inHand := none }, [.setForEvent event])
    | none => none

/-- Both threads have come to rest, and the connection thread has derived this state. -/
structure Quiescent (state : BootState) (derived : Option PowerState) : Prop where
  ended : state.connection = .ended derived
  empty : state.pwrEventQueue = []
  handled : state.inHand = none

end BootState

/-- The two threads of a listener with the controller `ux`. -/
def bootSync (ux : Option UXController) : Machine BootState BootAction BootEffect where
  step := BootState.step ux

abbrev BootStep := Occurrence BootState BootAction BootEffect

namespace BootEffect

end BootEffect

/-- The state with which the connection thread has set the ports. -/
def ConnectionPhase.synced : ConnectionPhase → Option PowerState
  | .ended derived => derived
  | _ => none

/-- The events that were delivered and not yet passed on, oldest first. -/
def BootState.pending (state : BootState) : List PowerEvent :=
  state.inHand.toList ++ state.pwrEventQueue

section Steps

variable {ux : Option UXController} {before after : BootState} {effects : List BootEffect}

end Steps

/-! ### Runs -/

section Derived

variable {ux : Option UXController}

/-- The answer of `GetPowerState` that a step takes over. -/
def powerStateRead (occurrence : BootStep) : Option PowerState :=
  match occurrence.action with
  | .getPowerState (.ok pwrStateCur) => some pwrStateCur
  | _ => none

/-- What the thread has derived, once it has. -/
def ConnectionPhase.derived? : ConnectionPhase → Option (Option PowerState)
  | .syncing powerState => some (some powerState)
  | .ended derived => some derived
  | _ => none

/-- What the connection thread has derived comes from `_curState`. -/
def BootState.DerivedFrom (ux : Option UXController) (state : BootState) : Prop :=
  ∀ derived, state.connection.derived? = some derived →
    ∃ files powerStateBeforeReboot,
      derived = BootState.derivedState ux files state.curState powerStateBeforeReboot

/-- `_curState` is the last answer of `GetPowerState`, and what is derived is derived from it. -/
theorem derived_step {before after : BootState} {action : BootAction} {effects : List BootEffect}
    (taken : (bootSync ux).step before action = some (after, effects))
    (derives : before.DerivedFrom ux) :
    after.curState = (powerStateRead ⟨before, action, effects, after⟩).getD before.curState ∧
      after.DerivedFrom ux := by
  simp only [bootSync, BootState.step] at taken
  cases action with
  | test | createInterface =>
      dsimp only at taken
      split at taken <;> cases taken
      refine ⟨rfl, fun derived found => ?_⟩
      dsimp only at found
      split_ifs at found <;> exact nomatch found
  | registerPowerEventHandler =>
      dsimp only at taken
      split at taken <;> cases taken
      exact ⟨rfl, fun derived found => nomatch found⟩
  | getPowerState answer =>
      dsimp only at taken
      split at taken
      next => cases answer <;> cases taken <;> exact ⟨rfl, fun derived found => nomatch found⟩
      next => cases taken
  | getPowerStateBeforeReboot answer =>
      dsimp only at taken
      split at taken
      next => cases answer <;> cases taken <;> exact ⟨rfl, fun derived found => nomatch found⟩
      next => cases taken
  | applyPostRebootConfig files =>
      dsimp only at taken
      split at taken
      next powerStateBeforeReboot _ =>
        split at taken <;> cases taken
        next powerState found =>
          refine ⟨rfl, fun derived same => ⟨files, powerStateBeforeReboot, ?_⟩⟩
          rw [← Option.some.inj same, found]
        next nothing =>
          refine ⟨rfl, fun derived same => ⟨files, powerStateBeforeReboot, ?_⟩⟩
          rw [← Option.some.inj same, nothing]
      next => cases taken
  | syncDisplayPorts =>
      dsimp only at taken
      split at taken <;> cases taken
      next powerState phase =>
        refine ⟨rfl, fun derived same => derives derived ?_⟩
        rw [phase]
        exact same
  | onPowerModeChanged event =>
      dsimp only at taken
      split_ifs at taken
      cases taken
      exact ⟨rfl, derives⟩
  | popEvent =>
      dsimp only at taken
      split at taken <;> cases taken
      exact ⟨rfl, derives⟩
  | handlePwrEventData =>
      dsimp only at taken
      split at taken <;> cases taken
      exact ⟨rfl, derives⟩

theorem derived_run {trace : List BootStep} {state : BootState}
    (run : (bootSync ux).Run .initial trace state) :
    state.curState = (lastOf powerStateRead trace).getD .standby ∧ state.DerivedFrom ux := by
  induction run with
  | nil => exact ⟨rfl, fun _ found => nomatch found⟩
  | @snoc trace before action after effects _ taken ih =>
      obtain ⟨read, derives⟩ := derived_step taken ih.2
      refine ⟨?_, derives⟩
      rw [read, ih.1, lastOf_snoc]
      cases powerStateRead ⟨before, action, effects, after⟩ <;> rfl

/-- In a run that has come to rest the derived state comes from what `GetPowerState` has answered,
which is STANDBY without an answer. -/
theorem derived_of_getPowerState {trace : List BootStep} {state : BootState}
    {derived : Option PowerState} (run : (bootSync ux).Run .initial trace state)
    (quiescent : state.Quiescent derived) :
    ∃ files powerStateBeforeReboot, derived = BootState.derivedState ux files
      ((lastOf powerStateRead trace).getD .standby) powerStateBeforeReboot := by
  obtain ⟨cur, derives⟩ := derived_run run
  rw [← cur]
  exact derives derived (by rw [quiescent.ended]; rfl)

end Derived

section Runs

variable {ux : Option UXController} {trace : List BootStep} {state : BootState}
  {derived : Option PowerState}

end Runs

end DeviceSettings.Power
